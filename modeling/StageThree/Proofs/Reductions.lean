import StageThree.Proofs.Accumulation
import StageThree.Proofs.Selection

/-!
Reductions beside the answer to the same query. A reduction reaches its value through a pipeline
that is built, compiled and run, and through a row that is made and taken apart again. All that
comes to its accumulator on what the documents that are found hold at the reduced field, whether
there are such documents or not.
-/

namespace StageThree

/-! ### Counting -/

namespace AccumulatorOp

/-- A sum to which ones are added is exact as long as it fits 64 bits. -/
theorem foldl_add_ones (n : Nat) (m : Int) (x : Double) (hm : 0 ≤ m)
    (h : m + n < 0x8000000000000000) :
    ∃ y, (List.replicate n (Native.int32 1)).foldl Total.add ⟨some m, x, false, false⟩ =
      ⟨some (m + n), y, false, false⟩ := by
  induction n generalizing m x with
  | zero => exact ⟨x, by simp⟩
  | succ n ih =>
      have hfits : Fits64 (m + 1) := ⟨by omega, by omega⟩
      have hone : (1 : Int32).toInt = 1 := by decide
      have hadd : Total.add ⟨some m, x, false, false⟩ (.int32 1) =
          ⟨some (m + 1), x.add (Double.ofInt 1), false, false⟩ := by
        rw [Total.add, hone, Total.addInt, Option.bind_some, Total.fit?, if_pos hfits]
      obtain ⟨y, hy⟩ := ih (m + 1) (x.add (Double.ofInt 1)) (by omega) (by omega)
      have hsum : m + 1 + n = m + (n + 1 : Nat) := by omega
      refine ⟨y, ?_⟩
      rw [List.replicate_succ, List.foldl_cons, hadd, hy, hsum]

theorem toNative_int32s (n : Int) (x : Double) :
    Total.toNative ⟨some n, x, false, false⟩ =
      if Fits32 n then .int32 (Int32.ofInt n) else .int64 (Int64.ofInt n) := by
  simp [Total.toNative]

/-- The width that a natural number gets does not change what is counted. -/
theorem countOf_toNative (n : Nat) (x : Double) (h : n < 2 ^ 63) :
    Adapter.countOf (Total.toNative ⟨some n, x, false, false⟩) = n := by
  rw [toNative_int32s]
  by_cases hnarrow : Fits32 (n : Int)
  · obtain ⟨hlower, hupper⟩ := hnarrow
    have hvalue : (Int32.ofInt (n : Int)).toInt = n :=
      Int32.toInt_ofInt_of_le (by omega) (by omega)
    rw [if_pos ⟨hlower, hupper⟩, Adapter.countOf, hvalue, Int.toNat_natCast]
  · have hvalue : (Int64.ofInt (n : Int)).toInt = n :=
      Int64.toInt_ofInt_of_le (by omega) (by omega)
    rw [if_neg hnarrow, Adapter.countOf, hvalue, Int.toNat_natCast]

theorem countOf_sumOf_ones (n : Nat) (h : n < 2 ^ 63) :
    Adapter.countOf (sumOf (List.replicate n (.int32 1))) = n := by
  obtain ⟨x, hx⟩ := foldl_add_ones n 0 Double.zero (Int.le_refl 0) (by omega)
  rw [Int.zero_add] at hx
  rw [sumOf, Total.zero, hx, countOf_toNative n x h]

end AccumulatorOp

/-! ### Groups without a key -/

namespace GroupStage

variable {stage : GroupStage} {value : Native}

theorem foldl_place_constant (hself : value.equal value = true) (members : List Document)
    (documents : List Document) :
    documents.foldl (fun groups document => place value document groups) [(value, members)] =
      [(value, members ++ documents)] := by
  induction documents generalizing members with
  | nil => rw [List.foldl_nil, List.append_nil]
  | cons document rest ih =>
      rw [List.foldl_cons, place, if_pos hself, ih, List.append_assoc, List.singleton_append]

/-- Documents share one group if their keys are one value, and there is no group without a
document. -/
theorem groups_constant (hkey : stage.key = .constant value) (hself : value.equal value = true)
    (documents : List Document) :
    stage.groups documents = if documents = [] then [] else [(value, documents)] := by
  have hkeyOf (document : Document) : stage.keyOf document = value := by
    rw [keyOf, hkey]
    rfl
  unfold groups
  simp only [hkeyOf]
  cases documents with
  | nil => rfl
  | cons document rest =>
      rw [List.foldl_cons, place, foldl_place_constant hself]
      rfl

end GroupStage

/-! ### The pipeline of a reduction -/

namespace Reduction

def op : Reduction → AccumulatorOp
  | sum | count => .sum
  | avg => .avg
  | min => .min
  | max => .max

def column (kind : Reduction) (field : String) : Accumulator :=
  ⟨kind.name, kind.op, .ofNative (kind.operand field)⟩

theorem ofName?_accumulator (kind : Reduction) :
    AccumulatorOp.ofName? kind.accumulator = some kind.op := by
  cases kind <;> rfl

theorem name_ne_keyName (kind : Reduction) : kind.name ≠ GroupStage.keyName := by
  cases kind <;> decide

theorem identity_eq_apply_nil (kind : Reduction) : kind.identity = kind.op.apply [] := by
  cases kind <;> rfl

/-- A name behind a dollar sign is the path that it names. -/
theorem ofNative_path {field : String} (h : isOperator field = false) :
    Expression.ofNative (.string ("$" ++ field)) = .path field := by
  have hchars : ("$" ++ field).toList = '$' :: field.toList := by simp
  have hdollar : isOperator ("$" ++ field) = true := by rw [isOperator, hchars]; rfl
  have hdrop : field.toList.dropWhile (· = '$') = field.toList := by
    unfold isOperator at h
    cases hlist : field.toList with
    | nil => rfl
    | cons c rest =>
        rw [hlist] at h
        exact List.dropWhile_cons_of_neg (by simpa using h)
  rw [Expression.ofNative, if_pos hdollar, hchars, List.dropWhile_cons_of_pos (by rfl), hdrop,
    String.ofList_toList]

theorem fold_column_of_ne_count {kind : Reduction} {field : String} (hkind : kind ≠ .count)
    (hfield : isOperator field = false) (documents : List Document) :
    (kind.column field).fold documents =
      kind.op.apply (documents.filterMap fun document => Path.lookup document field) := by
  have hoperand : kind.operand field = .string ("$" ++ field) := by
    cases kind with
    | count => exact absurd rfl hkind
    | _ => rfl
  rw [Accumulator.fold, column, hoperand, ofNative_path hfield]
  rfl

theorem fold_column_count (field : String) (documents : List Document) :
    (column .count field).fold documents =
      AccumulatorOp.sumOf (List.replicate documents.length (.int32 1)) := by
  have hones : (documents.filterMap fun document => (Expression.constant (.int32 1)).eval document) =
      List.replicate documents.length (.int32 1) := by
    rw [← List.map_const', ← List.filterMap_eq_map]
    rfl
  exact congrArg AccumulatorOp.sumOf hones

end Reduction

namespace ReductionPlan

variable (plan : ReductionPlan)

def group : GroupStage := ⟨.constant .null, [plan.kind.column plan.field]⟩

theorem compile_groupStage : GroupStage.compile plan.groupStage = .ok plan.group := by
  have hcolumn : Accumulator.compile plan.kind.name
      (.document [(plan.kind.accumulator, plan.kind.operand plan.field)]) =
        .ok (plan.kind.column plan.field) := by
    rw [Accumulator.compile, plan.kind.ofName?_accumulator]
    rfl
  have hcolumns : GroupStage.columns plan.groupStage = .ok [plan.kind.column plan.field] := by
    rw [groupStage, GroupStage.columns]
    simp only [GroupStage.columns, if_neg plan.kind.name_ne_keyName, hcolumn]
    rfl
  rw [GroupStage.compile, hcolumns]
  rfl

/-- A reduction's pipeline fails as its filter does, and folds what the filter finds. -/
theorem aggregate_stages (store : Store) (collection : String) :
    store.aggregate collection plan.stages =
      (store.find collection plan.filter).map plan.group.run := by
  have hgroup : Stage.compile [("$group", .document plan.groupStage)] =
      .ok (.group plan.group) := by
    rw [Stage.compile, compile_groupStage]
    rfl
  have hpick : Stage.compile [("$match", .document plan.filter)] =
      (Predicate.compile plan.filter).map .pick := rfl
  rw [Store.aggregate, stages, Pipeline.compile, Pipeline.compile, Pipeline.compile, hgroup, hpick,
    Store.find]
  cases Predicate.compile plan.filter <;> rfl

/-- The value in the row, or the identity where there is no row. -/
theorem ofRows_run (documents : List Document) :
    plan.kind.ofRows (plan.group.run documents) =
      (plan.kind.column plan.field).fold documents := by
  rw [GroupStage.run, GroupStage.groups_constant rfl rfl]
  cases documents with
  | nil => exact plan.kind.identity_eq_apply_nil
  | cons document rest =>
      have hrow : Fields.get? plan.kind.name (plan.group.row (.null, document :: rest)) =
          some ((plan.kind.column plan.field).fold (document :: rest)) := by
        rw [GroupStage.row, group, List.foldl_cons, List.foldl_nil]
        exact Fields.get?_insert_self ..
      rw [if_neg (List.cons_ne_nil _ _), List.map_singleton, Reduction.ofRows, Reduction.ofRows?,
        List.head?_cons, Option.map_some, hrow]
      rfl

end ReductionPlan

/-! ### Queries -/

namespace Adapter

variable {supply : Nat → ObjectId} {models : ModelRegistry} {options : TranslateOptions}
  {state : Supplied} {query : Query} {schema : ModelSchema}

theorem reduce_eq_map_select {kind : Reduction} {attr : String}
    (hmodel : models.get? query.model = some schema)
    (hattr : query.reducedAttr schema kind = .ok attr) :
    reduce ⟨.store supply, models, options⟩ state query kind =
      (select ⟨.store supply, models, options⟩ state query).map
        (kind.column (Filter.nativeField schema options attr)).fold := by
  simp only [reduce, select, resolve_of_get? hmodel, Query.planReduction, hattr, Executor.store,
    Except.ok_bind]
  cases query.planFilter schema options with
  | error cause => rfl
  | ok filter =>
      simp only [Except.ok_bind, pure, Except.pure, ReductionPlan.aggregate_stages]
      cases state.store.find query.model filter with
      | error cause => rfl
      | ok documents => exact congrArg Except.ok (ReductionPlan.ofRows_run _ documents)

theorem reduceGeneric_eq_map_select {kind : Reduction} {attr : String} (hkind : kind ≠ .count)
    (hmodel : models.get? query.model = some schema) (hattr : query.attr? = some attr) :
    reduceGeneric ⟨.store supply, models, options⟩ state query kind =
      (select ⟨.store supply, models, options⟩ state query).map fun documents =>
        Coercion.generic
          ((kind.column (Filter.nativeField schema options attr)).fold documents) := by
  have hreduced : query.reducedAttr schema kind = .ok attr := by
    unfold Query.reducedAttr
    rw [hattr]
  have hreduce : reduceGeneric ⟨.store supply, models, options⟩ state query kind =
      (reduce ⟨.store supply, models, options⟩ state query kind).map Coercion.generic := by
    cases kind with
    | count => exact absurd rfl hkind
    | _ => rfl
  rw [hreduce, reduce_eq_map_select hmodel hreduced]
  cases select ⟨.store supply, models, options⟩ state query <;> rfl

theorem count_eq_map_select (hmodel : models.get? query.model = some schema) :
    count ⟨.store supply, models, options⟩ state query =
      (select ⟨.store supply, models, options⟩ state query).map fun documents =>
        countOf (AccumulatorOp.sumOf (List.replicate documents.length (.int32 1))) := by
  obtain ⟨attr, hattr⟩ : ∃ attr, query.reducedAttr schema .count = .ok attr := by
    unfold Query.reducedAttr
    cases query.attr? with
    | none => exact ⟨schema.primaryKey, rfl⟩
    | some attr => exact ⟨attr, rfl⟩
  rw [count, reduce_eq_map_select hmodel hattr]
  cases select ⟨.store supply, models, options⟩ state query with
  | error cause => rfl
  | ok documents =>
      exact congrArg (fun total => Except.ok (countOf total))
        (Reduction.fold_column_count _ documents)

/-- Counting fails as the selection does, and so does any other reduction. -/
theorem reduceGeneric_of_error {kind : Reduction} {attr : String} {cause : QueryError}
    (hmodel : models.get? query.model = some schema) (hattr : query.attr? = some attr)
    (hselect : select ⟨.store supply, models, options⟩ state query = .error cause) :
    reduceGeneric ⟨.store supply, models, options⟩ state query kind = .error cause := by
  by_cases hkind : kind = .count
  · subst hkind
    rw [reduceGeneric, count_eq_map_select hmodel, hselect]
    rfl
  · rw [reduceGeneric_eq_map_select hkind hmodel hattr, hselect]
    rfl

theorem reduceGeneric_of_ok {kind : Reduction} {attr : String} {documents : List Document}
    (hkind : kind ≠ .count) (hmodel : models.get? query.model = some schema)
    (hattr : query.attr? = some attr)
    (hfield : isOperator (Filter.nativeField schema options attr) = false)
    (hselect : select ⟨.store supply, models, options⟩ state query = .ok documents) :
    reduceGeneric ⟨.store supply, models, options⟩ state query kind =
      .ok (Coercion.generic (kind.op.apply (documents.filterMap fun document =>
        Path.lookup document (Filter.nativeField schema options attr)))) := by
  rw [reduceGeneric_eq_map_select hkind hmodel hattr, hselect,
    ← Reduction.fold_column_of_ne_count hkind hfield]
  rfl

theorem count_of_ok {documents : List Document} (hmodel : models.get? query.model = some schema)
    (hsize : (state.store.documents query.model).length < 2 ^ 63)
    (hselect : select ⟨.store supply, models, options⟩ state query = .ok documents) :
    count ⟨.store supply, models, options⟩ state query = .ok documents.length := by
  have hlength := length_le_of_select hmodel hselect
  rw [count_eq_map_select hmodel, hselect, Except.map,
    AccumulatorOp.countOf_sumOf_ones _ (by omega)]

/-- Every reduction of a query follows what the query finds. It fails for the same cause;
otherwise a count is the number of documents, and any other reduction is what its accumulator is to
make of the values that the documents hold, in their order, and does make of those among them that
count. No documents are no exception, since the identity is what the accumulator makes of no
values. -/
theorem reductions_follow_find (hmodel : models.get? query.model = some schema)
    (hsize : (state.store.documents query.model).length < 2 ^ 63) :
    let adapter : Adapter Supplied := ⟨.store supply, models, options⟩
    adapter.find state query =
      (adapter.select state query).map (·.map (Record.read schema options)) ∧
    (∀ cause, adapter.select state query = .error cause →
      adapter.count state query = .error cause ∧
      ∀ kind attr, query.attr? = some attr →
        adapter.reduceGeneric state query kind = .error cause) ∧
    (∀ documents, adapter.select state query = .ok documents →
      adapter.count state query = .ok documents.length ∧
      ∀ kind attr, kind ≠ .count → query.attr? = some attr →
        isOperator (Filter.nativeField schema options attr) = false →
        let values := documents.filterMap fun document =>
          Path.lookup document (Filter.nativeField schema options attr)
        let result := kind.op.apply (values.filter kind.op.takes)
        adapter.reduceGeneric state query kind = .ok (Coercion.generic result) ∧
          kind.op.Makes values result) ∧
    ∀ kind : Reduction, kind.identity = kind.op.apply [] := by
  intro adapter
  refine ⟨find_eq_map_select hmodel, fun cause hselect => ⟨?_, fun kind attr hattr => ?_⟩,
    fun documents hselect => ⟨count_of_ok hmodel hsize hselect, ?_⟩,
    Reduction.identity_eq_apply_nil⟩
  · rw [count_eq_map_select hmodel, hselect]
    rfl
  · exact reduceGeneric_of_error hmodel hattr hselect
  · intro kind attr hkind hattr hfield values result
    have hresult : result = kind.op.apply values := kind.op.apply_filter_takes values
    rw [hresult]
    exact ⟨reduceGeneric_of_ok hkind hmodel hattr hfield hselect, kind.op.makes_apply values⟩

/-- Four cats and a dog. The first cat has no price, and the prices of the others come in three
widths; neither the least nor the greatest of them is the last. -/
def pricedPets : Supplied :=
  ⟨⟨"_id", [("pet", [[("_id", .int32 1), ("species", .string "cat")],
    [("_id", .int32 2), ("species", .string "cat"), ("price", .int64 7)],
    [("_id", .int32 3), ("species", .string "dog"), ("price", .int32 1)],
    [("_id", .int32 4), ("species", .string "cat"), ("price", .double ⟨0x4004000000000000⟩)],
    [("_id", .int32 5), ("species", .string "cat"), ("price", .int32 4)]])]⟩, 0⟩

def catPrices : List Native := [.int64 7, .double ⟨0x4004000000000000⟩, .int32 4]

/-- A document without the field counts, but adds nothing to a sum and is not divided by; and a key
is reduced under the name that it has in the store. -/
theorem reductions_follow_find_pets :
    let adapter : Adapter Supplied := ⟨.store .ofNat, .register .empty "pet" .empty, .default⟩
    let cats (attr : String) : Query :=
      { Query.of (.reduce .sum) "pet" with
        clause := .object [("species", .string "cat")], attr? := some attr }
    adapter.count pricedPets (cats "price") = .ok 4 ∧
      adapter.reduceGeneric pricedPets (cats "price") .sum =
        .ok (.number (.double ⟨0x402b000000000000⟩ rfl)) ∧
      (adapter.reduceGeneric pricedPets (cats "price") .avg =
          .ok (.number (.double ⟨0x4012000000000000⟩ rfl)) ∧
        AccumulatorOp.avg.Makes catPrices (.double ⟨0x4012000000000000⟩)) ∧
      (adapter.reduceGeneric pricedPets (cats "price") .min =
          .ok (.number (.double ⟨0x4004000000000000⟩ rfl)) ∧
        AccumulatorOp.min.Makes catPrices (.double ⟨0x4004000000000000⟩)) ∧
      (adapter.reduceGeneric pricedPets (cats "price") .max = .ok (.int 7) ∧
        AccumulatorOp.max.Makes catPrices (.int64 7)) ∧
      adapter.reduceGeneric pricedPets (cats "id") .max = .ok (.int 5) := by
  intro adapter cats
  have hsize : (pricedPets.store.documents "pet").length < 2 ^ 63 := by decide
  have hprice := (@reductions_follow_find .ofNat (.register .empty "pet" .empty) .default
    pricedPets (cats "price") .empty rfl hsize).2.2.1 _ rfl
  have hid := (@reductions_follow_find .ofNat (.register .empty "pet" .empty) .default
    pricedPets (cats "id") .empty rfl hsize).2.2.1 _ rfl
  have hreduced (kind : Reduction) (hkind : kind ≠ .count) :
      adapter.reduceGeneric pricedPets (cats "price") kind =
          .ok (Coercion.generic (kind.op.apply (catPrices.filter kind.op.takes))) ∧
        kind.op.Makes catPrices (kind.op.apply (catPrices.filter kind.op.takes)) :=
    hprice.2 kind "price" hkind rfl (by decide)
  exact ⟨hprice.1, (hreduced .sum (by decide)).1, hreduced .avg (by decide),
    hreduced .min (by decide), hreduced .max (by decide),
    (hid.2 .max "id" (by decide) rfl (by decide)).1⟩

end Adapter

end StageThree
