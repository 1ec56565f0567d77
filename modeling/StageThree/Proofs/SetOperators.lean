import StageThree.Proofs.ClauseGrammar
import StageThree.Proofs.ClauseTests

/-!
Sets and negations as combinations of equalities. A set of values asks for one of them, as the
disjunction of the equalities does, although the two are read, translated and compiled in different
ways. A negated operator finds what its counterpart leaves over.
-/

namespace StageThree

open Json (isBig)

namespace Filter

/-- The clause that asks for one of some values by a disjunction of equalities. -/
def oneOf (attr : String) (values : List Json) : Json :=
  .object [("or", .array (values.map fun value => .object [(attr, value)]))]

variable {schema : ModelSchema} {options : TranslateOptions} {attr combinator : String}
  {depth : Nat} {value : Json} {values : List Json} {target : Native} {targets : List Native}

/-! ### Reading -/

theorem branch_equality (combinator : String) (hdepth : depth ≤ FilterError.maxDepth)
    (hcombinator : attr ≠ "and" ∧ attr ≠ "or") (hvalue : value.isScalar = true ∨ value = .null) :
    branch depth combinator (.object [(attr, value)]) = .ok (.of .eq attr value) := by
  have hconstraint : constraint attr value = .ok (.of .eq attr value) := by
    cases value <;> simp_all [constraint, Json.isScalar]
  rw [branch, if_neg (Nat.not_lt.mpr hdepth), entries,
    entry_of_ne depth hcombinator.1 hcombinator.2, hconstraint]
  rfl

theorem ofWhere_oneOf (hcombinator : attr ≠ "and" ∧ attr ≠ "or")
    (hvalues : ∀ value ∈ values, value.isScalar = true ∨ value = .null) :
    ofWhere (oneOf attr values) = .ok (.any (values.map (.of .eq attr))) := by
  have hbranches : branches 1 "or" (values.map fun value => .object [(attr, value)]) =
      .ok (values.map (.of .eq attr)) := by
    rw [branches_eq_ok_iff, List.forall₂_map_left_iff, List.forall₂_map_right_iff,
      List.forall₂_same]
    exact fun value hmem => branch_equality "or" (by decide) hcombinator (hvalues value hmem)
  have hentry : entry 0 "or" (.array (values.map fun value => .object [(attr, value)])) =
      .ok (.any (values.map (.of .eq attr))) := by
    rw [entry, if_neg (by decide), if_pos rfl, hbranches]
    rfl
  rw [oneOf, ofWhere, entries, hentry]
  rfl

/-! ### Translation -/

theorem toNatives_equalities (hvalues : ∀ value ∈ values, value.isScalar = true ∨ value = .null) :
    toNatives schema options (values.map (.of .eq attr)) =
      ((nativeOperands schema attr values).map (·.map fun target =>
        .document (single (nativeField schema options attr) .eq target))).mapError .coercion := by
  induction values with
  | nil => rfl
  | cons value rest ih =>
      rw [List.forall_mem_cons] at hvalues
      rw [List.map_cons, toNatives, Filter.of,
        toNative_compare (fits_equality attr (.inl rfl) hvalues.1) (by simp),
        nativeTarget_ofJson hvalues.1, ih hvalues.2, nativeOperands]
      cases nativeOperand schema attr value with
      | error cause => rfl
      | ok target => cases nativeOperands schema attr rest <;> rfl

theorem whereToNative_oneOf (schema : ModelSchema) (options : TranslateOptions)
    (hcombinator : attr ≠ "and" ∧ attr ≠ "or")
    (hvalues : ∀ value ∈ values, value.isScalar = true ∨ value = .null) (hne : values ≠ []) :
    whereToNative schema options (oneOf attr values) =
      ((nativeOperands schema attr values).map fun targets =>
        [("$or", .array (targets.map fun target =>
          .document (single (nativeField schema options attr) .eq target)))]).mapError
        .coercion := by
  rw [whereToNative, ofWhere_oneOf hcombinator hvalues]
  simp only [toNative_any (mt List.map_eq_nil_iff.mp hne), toNatives_equalities hvalues]
  cases nativeOperands schema attr values <;> rfl

/-- Scalars convert, unless one of them is an integer beyond the signed range. -/
theorem exists_nativeOperands_iff
    (hvalues : ∀ value ∈ values, value.isScalar = true ∨ value = .null) :
    (∃ targets, nativeOperands schema attr values = .ok targets) ↔
      ∀ value ∈ values, isBig value = false := by
  rw [← forall₂_congr fun value hmem =>
    iff_of_eq (congrArg (· = false) (Json.somewhere_of_isScalar isBig (hvalues value hmem)))]
  cases h : values.any (Json.somewhere isBig) with
  | true => simpa [nativeOperands_of_big h] using h
  | false => simpa [exists_nativeOperands schema attr h] using h

theorem nativeOperands_ne_nil (hne : values ≠ [])
    (htargets : nativeOperands schema attr values = .ok targets) : targets ≠ [] := by
  obtain ⟨value, rest, rfl⟩ := List.exists_cons_of_ne_nil hne
  simp only [nativeOperands, Except.bind_eq_ok_iff, Except.pure_eq_ok_iff] at htargets
  obtain ⟨first, -, others, -, rfl⟩ := htargets
  simp

/-! ### Compilation -/

theorem branches_single {path : String} {op : CompareOp} {pose : Native → Condition}
    (hdepth : depth ≤ Rejection.maxDepth) (hpath : isOperator path = false)
    (hpose : ∀ target, op.condition? target = some (pose target)) (combinator : String)
    (targets : List Native) :
    Predicate.branches depth combinator
        (targets.map fun target => .document (single path op target)) =
      .ok (targets.map fun target => .all [.field path [pose target]]) := by
  induction targets with
  | nil => rfl
  | cons target rest ih =>
      rw [List.map_cons, Predicate.branches, Predicate.branch, if_neg (Nat.not_lt.mpr hdepth),
        single, Predicate.clauses_path depth hpath, Condition.ofValue_native path (hpose target),
        ih]
      rfl

theorem compile_equalities {path : String} (hpath : isOperator path = false)
    (hne : targets ≠ []) :
    Predicate.compile [("$or", .array (targets.map fun target =>
        .document (single path .eq target)))] =
      .ok (.all [.any (targets.map fun target => .all [.field path [.eq target]])]) := by
  rw [Predicate.compile, Predicate.clauses_or (mt List.map_eq_nil_iff.mp hne),
    branches_single (by decide) hpath fun _ => rfl]
  rfl

theorem holdAny_map {α : Type} (document : Document) (items : List α) (f : α → Predicate) :
    Predicate.holdAny document (items.map f) = items.any fun item => (f item).holds document := by
  rw [Predicate.holdAny_eq_any, List.any_map]
  rfl

/-! ### Tests -/

theorem tests_set (hcombinator : attr ≠ "and" ∧ attr ≠ "or")
    (hfield : isOperator (nativeField schema options attr) = false)
    (htargets : nativeOperands schema attr values = .ok targets) :
    let isOne (document : Document) : Bool := targets.any fun target =>
      Condition.equals target (Path.lookup document (nativeField schema options attr))
    Tests schema options (modified attr "in" (.array values)) isOne ∧
      Tests schema options (modified attr "nin" (.array values)) fun document =>
        !isOne document := by
  intro isOne
  have htarget : nativeTarget schema attr (.set values) = .ok (.array targets) := by
    rw [nativeTarget, htargets, Except.map]
  exact ⟨tests_modified (.isIn targets) hcombinator hfield rfl (by simp) rfl htarget rfl,
    tests_modified (.notIn targets) hcombinator hfield rfl (by simp) rfl htarget rfl⟩

theorem tests_value (hcombinator : attr ≠ "and" ∧ attr ≠ "or")
    (hvalue : value.isScalar = true ∨ value = .null)
    (hfield : isOperator (nativeField schema options attr) = false)
    (htarget : nativeOperand schema attr value = .ok target) :
    let isValue (document : Document) : Bool :=
      Condition.equals target (Path.lookup document (nativeField schema options attr))
    Tests schema options (.object [(attr, value)]) isValue ∧
      Tests schema options (modified attr "!=" value) fun document => !isValue document := by
  refine ⟨tests_equality hcombinator hvalue hfield htarget, ?_⟩
  rw [← nativeTarget_ofJson hvalue] at htarget
  exact tests_modified (.ne target) hcombinator hfield rfl (by simp)
    (fits_equality attr (.inr rfl) hvalue) htarget rfl

theorem tests_presence (schema : ModelSchema) (hcombinator : attr ≠ "and" ∧ attr ≠ "or")
    (hfield : isOperator (nativeField schema options attr) = false) :
    let isPresent (document : Document) : Bool :=
      (Path.lookup document (nativeField schema options attr)).isSome
    Tests schema options (modified attr "exists" (.bool true)) isPresent ∧
      Tests schema options (modified attr "exists" (.bool false)) fun document =>
        !isPresent document := by
  intro isPresent
  have htarget (present : Bool) : nativeTarget schema attr (.ofJson (.bool present)) =
      .ok (.bool present) := by
    simp only [Operand.ofJson, nativeTarget]
    unfold nativeOperand
    split <;> rfl
  have htests (present : Bool) : Tests schema options (modified attr "exists" (.bool present))
      fun document => isPresent document == present :=
    tests_modified (.isPresent present) hcombinator hfield rfl (by simp) rfl
      (htarget present) rfl
  constructor
  · simpa using htests true
  · simpa using htests false

/-- A disjunction of equalities asks for one of the values, also if there are none. -/
theorem tests_oneOf (hcombinator : attr ≠ "and" ∧ attr ≠ "or")
    (hvalues : ∀ value ∈ values, value.isScalar = true ∨ value = .null)
    (hkey : isOperator options.nativeKey = false)
    (hfield : isOperator (nativeField schema options attr) = false)
    (htargets : nativeOperands schema attr values = .ok targets) :
    Tests schema options (oneOf attr values) fun document => targets.any fun target =>
      Condition.equals target (Path.lookup document (nativeField schema options attr)) := by
  by_cases hne : values = []
  · -- what asks for a key out of no keys finds nothing
    subst hne
    obtain rfl : [] = targets := Except.ok.inj htargets
    have hcompile : Predicate.compile (matchNothing options) = .ok _ :=
      compile_single .isIn hkey rfl
    refine ⟨_, _, ?_, hcompile, fun document => ?_⟩
    · rw [whereToNative, ofWhere_oneOf hcombinator hvalues]
      rfl
    · simp [Predicate.holds, Predicate.holdAll, Condition.holds]
  · have hcompile := compile_equalities hfield (nativeOperands_ne_nil hne htargets)
    refine ⟨_, _, ?_, hcompile, fun document => ?_⟩
    · rw [whereToNative_oneOf schema options hcombinator hvalues hne, htargets]
      rfl
    · simp [Predicate.holds, Predicate.holdAll, holdAny_map, Condition.holds]

end Filter

/-! ### Answers -/

namespace Adapter

/-- Whether two clauses share out the documents of a query's collection: one selects those that
pass a test and the other the rest, both in order. -/
def ShareOut (adapter : Adapter Supplied) (state : Supplied) (query : Query)
    (clause rest : Json) : Prop :=
  ∃ test : Document → Bool,
    adapter.select state (query.asking clause) =
      .ok ((state.store.documents query.model).filter test) ∧
    adapter.select state (query.asking rest) =
      .ok ((state.store.documents query.model).filter fun document => !test document)

variable {supply : Nat → ObjectId} {models : ModelRegistry} {options : TranslateOptions}
  {state : Supplied} {query : Query} {schema : ModelSchema} {attr : String} {values : List Json}
  {clause rest : Json} {c : Comparison}

theorem shareOut_of_tests {test : Document → Bool}
    (hmodel : models.get? query.model = some schema)
    (hclause : Filter.Tests schema options clause test)
    (hrest : Filter.Tests schema options rest fun document => !test document) :
    ShareOut ⟨.store supply, models, options⟩ state query clause rest :=
  ⟨test, select_of_tests hmodel hclause, select_of_tests hmodel hrest⟩

theorem exists_target_of_find (hmodel : models.get? query.model = some schema)
    (hclause : Filter.ofWhere clause = .ok (.compare c)) (hfits : c.fits = true)
    (hop : c.op ≠ .like) (hfound : ∃ found,
      find ⟨.store supply, models, options⟩ state (query.asking clause) = .ok found) :
    ∃ target, Filter.nativeTarget schema c.attr c.operand = .ok target := by
  obtain ⟨found, hfound⟩ := hfound
  have hnative := Filter.whereToNative_compare schema options hclause hfits hop
  cases htarget : Filter.nativeTarget schema c.attr c.operand with
  | ok target => exact ⟨target, rfl⟩
  | error cause =>
      rw [htarget] at hnative
      have hrefused : find ⟨.store supply, models, options⟩ state (query.asking clause) =
          .error _ := find_of_error hmodel hnative
      rw [hrefused] at hfound
      cases hfound

theorem exists_find_set_iff (hmodel : models.get? query.model = some schema)
    (hcombinator : attr ≠ "and" ∧ attr ≠ "or")
    (hfield : isOperator (Filter.nativeField schema options attr) = false) :
    (∃ found, find ⟨.store supply, models, options⟩ state
        (query.asking (Filter.modified attr "in" (.array values))) = .ok found) ↔
      ∃ targets, Filter.nativeOperands schema attr values = .ok targets := by
  constructor
  · intro hfound
    obtain ⟨target, htarget⟩ := exists_target_of_find hmodel
      (Filter.ofWhere_modified hcombinator rfl (.array values)) rfl (by simp) hfound
    obtain ⟨targets, htargets, -⟩ := Except.map_eq_ok_iff.mp htarget
    exact ⟨targets, htargets⟩
  · rintro ⟨targets, htargets⟩
    exact ⟨_, find_of_tests hmodel (Filter.tests_set hcombinator hfield htargets).1⟩

theorem find_set_eq_find_oneOf (hmodel : models.get? query.model = some schema)
    (hkey : isOperator options.nativeKey = false) (hcombinator : attr ≠ "and" ∧ attr ≠ "or")
    (hfield : isOperator (Filter.nativeField schema options attr) = false)
    (hvalues : ∀ value ∈ values, value.isScalar = true ∨ value = .null) :
    find ⟨.store supply, models, options⟩ state
        (query.asking (Filter.modified attr "in" (.array values))) =
      find ⟨.store supply, models, options⟩ state (query.asking (Filter.oneOf attr values)) := by
  cases htargets : Filter.nativeOperands schema attr values with
  | ok targets =>
      have hset := (Filter.tests_set hcombinator hfield htargets).1
      have honeOf := Filter.tests_oneOf hcombinator hvalues hkey hfield htargets
      exact Eq.trans (find_of_tests hmodel hset) (Eq.symm (find_of_tests hmodel honeOf))
  | error cause =>
      have hne : values ≠ [] := by
        rintro rfl
        cases htargets
      have hclause : Filter.ofWhere (Filter.modified attr "in" (.array values)) =
          .ok (.of .isIn attr (.array values)) := Filter.ofWhere_modified hcombinator rfl _
      have hset := Filter.whereToNative_compare schema options hclause rfl (by simp)
      have honeOf := Filter.whereToNative_oneOf schema options hcombinator hvalues hne
      simp only [Operand.ofJson, Filter.nativeTarget, htargets] at hset honeOf
      exact Eq.trans (find_of_error hmodel hset) (Eq.symm (find_of_error hmodel honeOf))

/-- A set of scalars and the disjunction of the equalities with them have the same answer, which is
an error if and only if an integer among them is beyond the signed range. A set and its negation, a
value and its negation, presence and absence share out the documents. -/
theorem sets_and_negations (hmodel : models.get? query.model = some schema)
    (hkey : isOperator options.nativeKey = false) (hcombinator : attr ≠ "and" ∧ attr ≠ "or")
    (hfield : isOperator (Filter.nativeField schema options attr) = false)
    (hvalues : ∀ value ∈ values, value.isScalar = true ∨ value = .null) :
    let adapter : Adapter Supplied := ⟨.store supply, models, options⟩
    let find (clause : Json) := adapter.find state (query.asking clause)
    let isIn := Filter.modified attr "in" (.array values)
    let notIn := Filter.modified attr "nin" (.array values)
    (∀ clause, find clause =
      (adapter.select state (query.asking clause)).map (·.map (Record.read schema options))) ∧
    find isIn = find (Filter.oneOf attr values) ∧
    ((∃ found, find isIn = .ok found) ↔ ∀ value ∈ values, isBig value = false) ∧
    ((∃ found, find isIn = .ok found) → ShareOut adapter state query isIn notIn) ∧
    (∀ value, value.isScalar = true ∨ value = .null →
      (∃ found, find (.object [(attr, value)]) = .ok found) →
        ShareOut adapter state query (.object [(attr, value)])
          (Filter.modified attr "!=" value)) ∧
    ShareOut adapter state query (Filter.modified attr "exists" (.bool true))
      (Filter.modified attr "exists" (.bool false)) := by
  intro adapter find isIn notIn
  have hsuccess : (∃ found, find isIn = .ok found) ↔
      ∃ targets, Filter.nativeOperands schema attr values = .ok targets :=
    exists_find_set_iff hmodel hcombinator hfield
  refine ⟨fun clause => find_eq_map_select hmodel,
    find_set_eq_find_oneOf hmodel hkey hcombinator hfield hvalues,
    hsuccess.trans (Filter.exists_nativeOperands_iff hvalues), fun hfound => ?set,
    fun value hvalue hfound => ?value, ?presence⟩
  case set =>
    obtain ⟨targets, htargets⟩ := hsuccess.mp hfound
    obtain ⟨hone, hnone⟩ := Filter.tests_set hcombinator hfield htargets
    exact shareOut_of_tests hmodel hone hnone
  case value =>
    obtain ⟨target, htarget⟩ := exists_target_of_find hmodel
      (Filter.ofWhere_equality hcombinator hvalue) (Filter.fits_equality attr (.inl rfl) hvalue)
      (by simp) hfound
    rw [Filter.nativeTarget_ofJson hvalue] at htarget
    obtain ⟨hequal, hnot⟩ := Filter.tests_value hcombinator hvalue hfield htarget
    exact shareOut_of_tests hmodel hequal hnot
  case presence =>
    obtain ⟨hpresent, habsent⟩ := Filter.tests_presence schema hcombinator hfield
    exact shareOut_of_tests hmodel hpresent habsent

def taggedPets : Supplied :=
  ⟨⟨"_id", [("pet", [[("_id", .int32 1), ("tags", .array [.string "old", .string "shy"])],
    [("_id", .int32 2), ("tags", .string "shy")], [("_id", .int32 3)]])]⟩, 0⟩

def oldOrNone : List Json := [.string "old", .null, .string "old"]

/-- The second value is beyond the signed range. -/
def oneAndBeyond : List Json := [.int 1, .number (.big 9223372036854775808 (by decide))]

/-- An element of an array is one of the values, and a field that is absent is null; the field of
the key is asked for under its own name, and an integer beyond the range fails either way. -/
theorem sets_and_negations_pets :
    let adapter : Adapter Supplied := ⟨.store .ofNat, .register .empty "pet" .empty, .default⟩
    let pets : Query := .of .find "pet"
    adapter.find taggedPets (pets.asking (Filter.oneOf "tags" oldOrNone)) =
        .ok [[("id", .int 1), ("tags", .array [.string "old", .string "shy"])], [("id", .int 3)]] ∧
      ShareOut adapter taggedPets pets (Filter.modified "tags" "in" (.array oldOrNone))
        (Filter.modified "tags" "nin" (.array oldOrNone)) ∧
      ¬∃ found,
        adapter.find taggedPets (pets.asking (Filter.oneOf "id" oneAndBeyond)) = .ok found := by
  obtain ⟨-, hsame, -, hshare, -⟩ :=
    @sets_and_negations .ofNat (.register .empty "pet" .empty) .default taggedPets
      (.of .find "pet") .empty "tags" oldOrNone rfl rfl (by decide) rfl
      (by simp [oldOrNone, Json.isScalar])
  obtain ⟨-, hfails, hsmall, -⟩ :=
    @sets_and_negations .ofNat (.register .empty "pet" .empty) .default taggedPets
      (.of .find "pet") .empty "id" oneAndBeyond rfl rfl (by decide) rfl
      (by simp [oneAndBeyond, Json.isScalar, Json.int])
  refine ⟨hsame.symm.trans rfl, hshare ⟨_, rfl⟩, fun hfound => ?_⟩
  have hin := hsmall.mp (hfails ▸ hfound) _ (List.mem_cons_of_mem _ (List.mem_cons_self ..))
  cases hin

end Adapter

end StageThree
