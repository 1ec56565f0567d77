import StageThree.Proofs.AdapterHistory
import StageThree.Proofs.EqualityLaws
import StageThree.Proofs.FilterMeaning
import StageThree.Proofs.ScalarValues

/-!
Looking records up by their key. A store refuses a key that equals one of its keys, so that a
lookup finds one record at most, as far as being equal to the same value makes two keys equal. It
does not in two cases: an array is found by each of its elements, and integers so large that they
round to one double are found by that double, although they differ.
-/

namespace StageThree

namespace Native

variable {a b target : Native}

/-! ### Two keys that are equal to one value -/

def isArray : Native → Bool
  | .array _ => true
  | _ => false

/-- Whether the conversion of a scalar can end in a value. -/
def isTarget : Native → Bool
  | .bool _ | .int64 _ | .double _ | .string _ | .objectId _ => true
  | _ => false

theorem equal_iff_order? (h : target.isTarget = true) :
    a.equal target = true ↔ a.order? target = some .eq := by
  have hsame : a.same target = true → a.order? target = some .eq := by
    intro hsame
    cases target with
    | bool | int64 | string | objectId =>
        cases a <;> simp only [same, sameScalar, Bool.false_eq_true, beq_iff_eq] at hsame
        subst hsame
        simp [order?, orderNumbers?, toInt?, Std.ReflOrd.compare_self]
    | double y =>
        cases a <;>
          simp only [same, sameScalar, Bool.false_eq_true, Double.equal, beq_iff_eq] at hsame
        exact hsame
    | _ => cases h
  unfold equal
  simpa using hsame

theorem isNested_of_isTarget (h : target.isTarget = true) : target.isNested = false := by
  cases target with
  | array | document | scopedCode => cases h
  | _ => rfl

/-- Two values that are equal to one scalar are equal to each other, or they are integers that
round to this scalar, which is large. -/
theorem equal_or_rounded (h : target.isTarget = true) (ha : a.equal target = true)
    (hb : b.equal target = true) :
    a.equal b = true ∨ ∃ x m n, target = .double x ∧ a.toInt? = some m ∧ b.toInt? = some n ∧
      (Double.ofNat (2 ^ 53)).magnitude ≤ x.magnitude ∧ (Double.ofInt m).order? x = some .eq ∧
        (Double.ofInt n).order? x = some .eq := by
  rw [← equal_comm_of_scalar (isNested_of_isTarget h)] at hb
  obtain hequal | ⟨m, n, x, hm, hn, hne, rfl, hmx, hnx⟩ := equal_trans_or_rounded ha hb
  · exact .inl hequal
  · exact .inr ⟨x, m, n, rfl, hm, hn, Double.le_magnitude_of_rounded hmx hnx hne, hmx, hnx⟩

/-- Of distinct values that are equal to one scalar there is one at most, or they are integers that
round to this scalar, which is large. -/
theorem one_or_rounded {values : List Native} (h : target.isTarget = true)
    (hdistinct : values.Pairwise fun a b => a.equal b = false)
    (hequal : ∀ value ∈ values, value.equal target = true) :
    values.length ≤ 1 ∨ ∃ x, target = .double x ∧
      (Double.ofNat (2 ^ 53)).magnitude ≤ x.magnitude ∧
        ∀ value ∈ values, ∃ n, value.toInt? = some n ∧ (Double.ofInt n).order? x = some .eq := by
  match values with
  | [] | [_] => exact .inl (by simp)
  | first :: second :: rest =>
      right
      have hlater := (List.pairwise_cons.mp hdistinct).1
      have hfirst := hequal first (List.mem_cons_self ..)
      have hround (later) (hmem : later ∈ second :: rest) := (equal_or_rounded h hfirst
        (hequal later (List.mem_cons_of_mem _ hmem))).resolve_left
          (by simp [hlater later hmem])
      obtain ⟨x, m, -, rfl, hm, -, hlarge, hmx, -⟩ := hround second (List.mem_cons_self ..)
      refine ⟨x, rfl, hlarge, fun value hmem => ?_⟩
      rcases List.mem_cons.mp hmem with rfl | hmem
      · exact ⟨m, hm, hmx⟩
      · obtain ⟨y, -, n, hxy, -, hn, -, -, hny⟩ := hround value hmem
        obtain rfl : x = y := by simpa using hxy
        exact ⟨n, hn, hny⟩

end Native

/-! ### Lookups -/

theorem Condition.equals_of_not_array {value : Native} (h : value.isArray = false)
    (target : Native) : equals target (some value) = value.equal target := by
  cases value with
  | array => cases h
  | _ => exact Bool.or_false _

/-- A scalar is looked up by a scalar of the same kind, or by the identifier that its text
spells. -/
theorem Filter.isTarget_nativeOperand {schema : ModelSchema} {attr : String} {value : Json}
    {target : Native} (hvalue : value.isScalar = true)
    (h : nativeOperand schema attr value = .ok target) :
    target.isTarget = true ∧
      ∀ x, target = .double x → ∃ finite, value = .number (.double x finite) := by
  obtain ⟨plain, hplain, rfl⟩ := nativeOperand_eq_ok_iff.mp h
  cases value with
  | bool =>
      obtain rfl := Option.some.inj hplain
      simp [Coercion.identifier, Native.isTarget]
  | number n =>
      cases n with
      | int =>
          obtain rfl := Option.some.inj hplain
          simp [Coercion.identifier, Native.isTarget, Native.IntegerReading.wide]
      | big => cases hplain
      | double x finite =>
          obtain rfl := Option.some.inj hplain
          simp [Coercion.identifier, Native.isTarget, finite]
  | string text =>
      obtain rfl := Option.some.inj hplain
      rw [Coercion.identifier_string]
      split <;> cases ObjectId.ofHex? text <;> simp [Native.isTarget]
  | null | array | object => cases hvalue

namespace Adapter

variable {supply : Nat → ObjectId} {models : ModelRegistry} {options : TranslateOptions}
  {state : Supplied} {query : Query} {schema : ModelSchema} {value : Json}

theorem select_key {documents : List Document} (hmodel : models.get? query.model = some schema)
    (hkeyed : state.store.Keyed) (hstore : state.store.key = options.nativeKey)
    (hkey : isOperator options.nativeKey = false) (hundotted : '.' ∉ options.nativeKey.toList)
    (hclause : query.clause = .object [(schema.primaryKey, value)])
    (hvalue : value.isScalar = true)
    (h : select ⟨.store supply, models, options⟩ state query = .ok documents) :
    ∃ target, Filter.nativeOperand schema schema.primaryKey value = .ok target ∧
      documents = (state.store.documents query.model).filter fun document =>
        Condition.equals target (some (state.store.keyOf document)) := by
  obtain ⟨filter, hnative, hfound⟩ := (select_eq_ok_iff hmodel).mp h
  rw [hclause] at hnative
  obtain ⟨-, target, htarget, rfl⟩ := Filter.of_whereToNative hvalue hnative
  rw [Filter.nativeField_primaryKey, Store.find_equality hkey, Except.ok.injEq] at hfound
  refine ⟨target, htarget, ?_⟩
  rw [← hfound]
  refine List.filter_congr fun document hmem => ?_
  obtain ⟨id, rest, rfl⟩ := hkeyed.key_first query.model document hmem
  rw [Store.keyOf_cons, Path.lookup_of_not_mem hundotted, Fields.get?_cons, if_pos hstore]

/-- Looking up a key that a model's records may have, in a store that was empty: of the documents
that are selected, one at most has a key that is not an array. There are more only if the value is
a double from `2 ^ 53` on, and then all these keys are integers that round to it. -/
theorem key_unique_of_lookup {queries : List Query}
    (hmodel : models.get? query.model = some schema) (hkey : isOperator options.nativeKey = false)
    (hundotted : '.' ∉ options.nativeKey.toList)
    (hclause : query.clause = .object [(schema.primaryKey, value)])
    (hvalue : value.isScalar = true) :
    let adapter : Adapter Supplied := ⟨.store supply, models, options⟩
    let reached := after adapter ⟨.empty options.nativeKey, 0⟩ queries
    adapter.find reached query =
        (adapter.select reached query).map (·.map (Record.read schema options)) ∧
      ∀ documents, adapter.select reached query = .ok documents →
        let keys := (documents.map reached.store.keyOf).filter fun key => !key.isArray
        keys.length ≤ 1 ∨ ∃ x finite, value = .number (.double x finite) ∧
          (Double.ofNat (2 ^ 53)).magnitude ≤ x.magnitude ∧
            ∀ key ∈ keys, ∃ n, key.toInt? = some n ∧ (Double.ofInt n).order? x = some .eq := by
  intro adapter reached
  refine ⟨find_eq_map_select hmodel, fun documents hselect => ?_⟩
  obtain ⟨hstore, hkeyed⟩ := @keyed_after supply models options options.nativeKey queries
  obtain ⟨target, htarget, rfl⟩ :=
    select_key hmodel hkeyed hstore hkey hundotted hclause hvalue hselect
  obtain ⟨hkind, hdouble⟩ := Filter.isTarget_nativeOperand hvalue htarget
  intro keys
  have hdistinct : keys.Pairwise fun a b => a.equal b = false :=
    (List.pairwise_map.mpr ((hkeyed.distinct query.model).filter _)).filter _
  have hequal : ∀ key ∈ keys, key.equal target = true := by
    intro key hkey
    obtain ⟨hmem, hplain⟩ := List.mem_filter.mp hkey
    obtain ⟨document, hdocument, rfl⟩ := List.mem_map.mp hmem
    have hequals := (List.mem_filter.mp hdocument).2
    rwa [Condition.equals_of_not_array (by simpa using hplain)] at hequals
  obtain hone | ⟨x, rfl, hlarge, hround⟩ := Native.one_or_rounded hkind hdistinct hequal
  · exact .inl hone
  · obtain ⟨finite, hx⟩ := hdouble x rfl
    exact .inr ⟨x, finite, hx, hlarge, hround⟩

def createPets (ids : List Json) : List Query :=
  ids.map fun id => { Query.of .create "pet" with record? := some [("id", id)] }

def lookUpPet (id : Json) : Query := { Query.of .find "pet" with clause := .object [("id", id)] }

def nestedIds : List Json := [.array [.int 1], .int 1]

/-- Two integers that round to one double. -/
def largeIds : List Json := [.int 9007199254740992, .int 9007199254740993]

def roundId : Json := .number (.double (.ofNat (2 ^ 53)) (by decide))

/-- Of two documents one has an array for its key; and of two large integers both are found by the
double that they round to. -/
theorem key_unique_of_lookup_pets :
    let adapter : Adapter Supplied := ⟨.store .ofNat, .register .empty "pet" .empty, .default⟩
    let reached (ids : List Json) : Supplied :=
      after adapter ⟨.empty "_id", 0⟩ (createPets ids)
    let keys (ids : List Json) (documents : List Document) : List Native :=
      (documents.map (reached ids).store.keyOf).filter fun key => !key.isArray
    (∃ documents, adapter.select (reached nestedIds) (lookUpPet (.int 1)) = .ok documents ∧
      documents.length = 2 ∧ (keys nestedIds documents).length ≤ 1) ∧
    ∃ documents, adapter.select (reached largeIds) (lookUpPet roundId) = .ok documents ∧
      documents.length = 2 ∧ ∀ key ∈ keys largeIds documents,
        ∃ n, key.toInt? = some n ∧ (Double.ofInt n).order? (.ofNat (2 ^ 53)) = some .eq := by
  refine ⟨⟨[_, _], rfl, rfl, ?nested⟩, ⟨[_, _], rfl, rfl, ?rounded⟩⟩
  case nested =>
    have hunique := (@key_unique_of_lookup .ofNat (.register .empty "pet" .empty) .default
      (lookUpPet (.int 1)) .empty _ (createPets nestedIds) rfl rfl (by decide) rfl rfl).2 _ rfl
    refine hunique.resolve_right ?_
    rintro ⟨x, finite, hx, -⟩
    cases hx
  case rounded =>
    obtain hone | ⟨x, finite, hx, -, hround⟩ :=
      (@key_unique_of_lookup .ofNat (.register .empty "pet" .empty) .default
        (lookUpPet roundId) .empty _ (createPets largeIds) rfl rfl (by decide) rfl rfl).2 _ rfl
    · exact absurd hone (by decide)
    · obtain rfl : Double.ofNat (2 ^ 53) = x := by simpa [roundId] using hx
      exact hround

/-- Two records are found by one key: one of them through an element of its key, or both because
comparing them with a double rounds their keys. -/
theorem key_not_unique_of_lookup :
    let adapter : Adapter Supplied := ⟨.store .ofNat, .register .empty "pet" .empty, .default⟩
    let found (ids : List Json) (id : Json) : Except QueryError (List Record) :=
      adapter.find (after adapter ⟨.empty "_id", 0⟩ (createPets ids)) (lookUpPet id)
    found nestedIds (.int 1) = .ok [[("id", .array [.int 1])], [("id", .int 1)]] ∧
      found largeIds roundId =
        .ok [[("id", .int 9007199254740992)], [("id", .int 9007199254740993)]] :=
  ⟨rfl, rfl⟩

end Adapter

end StageThree
