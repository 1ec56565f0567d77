import StageThree.Filter.Form
import StageThree.Proofs.ClauseGrammar
import StageThree.Proofs.Conversion

/-!
The operands that reach the store. Each native operator has its kinds of operands, and a filter that
is translated poses its operators with operands of these kinds, except where null or an array
was wrapped as a scalar: the shape of an operand is what it is called, not what is in it. Operands
that are read from a clause are called what they are.
-/

namespace StageThree

/-- Whether an operator is meant for a native operand. Order knows neither null nor arrays, and
equality no arrays; a set is an array, presence a truth value, and a pattern text. -/
def CompareOp.Admits : CompareOp → Native → Prop
  | .eq, operand | .ne, operand => ∀ items, operand ≠ .array items
  | .lt, operand | .lte, operand | .gt, operand | .gte, operand =>
    operand ≠ .null ∧ ∀ items, operand ≠ .array items
  | .isIn, operand | .notIn, operand => ∃ items, operand = .array items
  | .isPresent, operand => ∃ present, operand = .bool present
  | .like, operand => ∃ pattern, operand = .string pattern

namespace Comparison

/-- Whether the operand is called a scalar, and is of a kind that the operator is not meant for. -/
def IsDisguised (c : Comparison) : Prop :=
  match c.op with
  | .eq | .ne => ∃ items, c.operand = .scalar (.array items)
  | .lt | .lte | .gt | .gte =>
    c.operand = .scalar .null ∨ ∃ items, c.operand = .scalar (.array items)
  | _ => False

end Comparison

namespace Filter

/-! ### The operators of a native filter -/

mutual

def posed : List (String × Native) → List (String × Native)
  | [] => []
  | (_, value) :: rest => posedByValue value ++ posed rest

def posedByValue : Native → List (String × Native)
  | .array branches => posedByBranches branches
  | .document operators => operators
  | _ => []

def posedByBranches : List Native → List (String × Native)
  | [] => []
  | branch :: rest => posedByBranch branch ++ posedByBranches rest

def posedByBranch : Native → List (String × Native)
  | .document fields => posed fields
  | _ => []

end

/-- Whether a native filter poses every operator with an operand that it is meant for. -/
def FollowsTable (native : Document) : Prop :=
  ∀ (op : CompareOp) (operand : Native), (op.native, operand) ∈ posed native → op.Admits operand

end Filter

namespace CompareOp

theorem native_injective {op other : CompareOp} (h : op.native = other.native) : op = other := by
  cases op <;> cases other <;> first | rfl | exact absurd h (by decide)

theorem native_ne_options (op : CompareOp) : op.native ≠ "$options" := by
  cases op <;> decide

end CompareOp

namespace Filter

variable {schema : ModelSchema} {options : TranslateOptions} {attr : String} {value : Json}
  {target operand : Native} {c : Comparison} {condition : Document} {filter : Filter}
  {children : List Filter} {native : Document}

/-! ### Operands -/

theorem null_or_array_of_nativeOperand (h : nativeOperand schema attr value = .ok target) :
    (target = .null ↔ value = .null) ∧
      ((∃ items, target = .array items) ↔ ∃ items, value = .array items) := by
  obtain ⟨plain, hplain, rfl⟩ := nativeOperand_eq_ok_iff.mp h
  obtain ⟨hnull, harray⟩ := Native.null_or_array_of_ofGeneric? hplain
  rw [← hnull, ← harray]
  split
  · -- an identifier is made of text, and everything else stays as it is
    cases plain with
    | string text =>
        rw [Coercion.identifier_string]
        cases ObjectId.ofHex? text <;> simp
    | _ => simp [Coercion.identifier]
  · exact ⟨.rfl, .rfl⟩

theorem eq_like_of_mem_likeCondition {op : CompareOp} {pattern : String}
    (h : (op.native, operand) ∈ likeCondition options pattern) :
    op = .like ∧ operand = .string (Like.toRegex pattern) := by
  have hmem : (op.native, operand) = ("$regex", .string (Like.toRegex pattern)) := by
    unfold likeCondition at h
    split at h
    · simpa [CompareOp.native_ne_options] using h
    · simpa using h
  obtain ⟨hop, rfl⟩ := Prod.mk.inj hmem
  exact ⟨CompareOp.native_injective hop, rfl⟩

theorem eq_of_mem_nativeCondition {op : CompareOp} (hop : c.op ≠ .like)
    (hcondition : nativeCondition schema options c = .ok condition)
    (h : (op.native, operand) ∈ condition) :
    op = c.op ∧ nativeTarget schema c.attr c.operand = .ok operand := by
  rw [nativeCondition_eq_map hop, Except.map_eq_ok_iff] at hcondition
  obtain ⟨target, htarget, rfl⟩ := hcondition
  obtain ⟨hname, rfl⟩ := Prod.mk.inj (List.mem_singleton.mp h)
  exact ⟨CompareOp.native_injective hname, htarget⟩

theorem mem_nativeCondition (hop : c.op ≠ .like)
    (hcondition : nativeCondition schema options c = .ok condition) :
    ∃ target, nativeTarget schema c.attr c.operand = .ok target ∧
      (c.op.native, target) ∈ condition := by
  rw [nativeCondition_eq_map hop, Except.map_eq_ok_iff] at hcondition
  obtain ⟨target, htarget, rfl⟩ := hcondition
  exact ⟨target, htarget, List.mem_singleton_self _⟩

/-- The table of operands allows the target of a comparison whose operand is not disguised. -/
theorem admits_iff (hfits : c.fits = true) (hop : c.op ≠ .like)
    (h : nativeTarget schema c.attr c.operand = .ok target) :
    c.op.Admits target ↔ ¬c.IsDisguised := by
  obtain ⟨attr, op, operand⟩ := c
  cases operand with
  | null =>
      obtain rfl := Except.ok.inj h
      cases op <;> simp_all [Comparison.fits, CompareOp.Admits, Comparison.IsDisguised]
  | scalar value =>
      obtain ⟨hnull, harray⟩ := null_or_array_of_nativeOperand h
      cases op with
      | eq | ne =>
          simp only [CompareOp.Admits, Comparison.IsDisguised, Operand.scalar.injEq]
          rw [← harray, not_exists]
      | lt | lte | gt | gte =>
          simp only [CompareOp.Admits, Comparison.IsDisguised, Operand.scalar.injEq]
          rw [← harray, ← hnull, not_or, not_exists]
      | isPresent =>
          obtain ⟨present, hpresent⟩ := eq_bool_of_fits hfits
          obtain rfl := Operand.scalar.inj hpresent
          obtain rfl := target_of_isPresent (nativeOperand_eq_ok_iff.mp h)
          exact iff_of_true ⟨present, rfl⟩ id
      | isIn | notIn => cases hfits
      | like => exact absurd rfl hop
  | set values =>
      obtain ⟨targets, -, rfl⟩ := Except.map_eq_ok_iff.mp h
      cases op with
      | isIn | notIn => exact iff_of_true ⟨targets, rfl⟩ id
      | _ => cases hfits

/-! ### Filters -/

/-- Which operators the comparisons of a filter pose, and that these are all. A disjunction without
children poses a set of its own. -/
structure PosedFrom (schema : ModelSchema) (options : TranslateOptions)
    (comparisons : List Comparison) (entries : List (String × Native)) : Prop where
  poses : ∀ c ∈ comparisons, c.fits = true ∧ ∃ condition,
    nativeCondition schema options c = .ok condition ∧ condition ⊆ entries
  source : ∀ entry ∈ entries, entry = (CompareOp.isIn.native, .array []) ∨
    ∃ c ∈ comparisons, ∃ condition,
      nativeCondition schema options c = .ok condition ∧ entry ∈ condition

namespace PosedFrom

variable {comparisons others : List Comparison} {entries more : List (String × Native)}

theorem nil : PosedFrom schema options [] [] := ⟨by simp, by simp⟩

theorem append (h : PosedFrom schema options comparisons entries)
    (hothers : PosedFrom schema options others more) :
    PosedFrom schema options (comparisons ++ others) (entries ++ more) := by
  constructor
  · intro c hc
    rcases List.mem_append.mp hc with hc | hc
    · obtain ⟨hfits, condition, hcondition, hsubset⟩ := h.poses c hc
      exact ⟨hfits, condition, hcondition, List.subset_append_of_subset_left more hsubset⟩
    · obtain ⟨hfits, condition, hcondition, hsubset⟩ := hothers.poses c hc
      exact ⟨hfits, condition, hcondition, List.subset_append_of_subset_right entries hsubset⟩
  · intro entry hentry
    rcases List.mem_append.mp hentry with hentry | hentry
    · refine (h.source entry hentry).imp_right ?_
      rintro ⟨c, hc, hsource⟩
      exact ⟨c, List.mem_append_left others hc, hsource⟩
    · refine (hothers.source entry hentry).imp_right ?_
      rintro ⟨c, hc, hsource⟩
      exact ⟨c, List.mem_append_right comparisons hc, hsource⟩

end PosedFrom

theorem posedFrom_toNatives {natives : List Native}
    (h : ∀ child ∈ children, ∀ {native}, toNative schema options child = .ok native →
      PosedFrom schema options child.leaves (posed native))
    (hnatives : toNatives schema options children = .ok natives) :
    PosedFrom schema options (leavesOf children) (posedByBranches natives) := by
  rw [toNatives_eq_ok_iff] at hnatives
  induction hnatives with
  | nil => exact .nil
  | cons hfirst _ ih =>
      obtain ⟨native, hnative, rfl⟩ := hfirst
      rw [List.forall_mem_cons] at h
      exact (h.1 hnative).append (ih h.2)

theorem posedFrom_toNative (h : toNative schema options filter = .ok native) :
    PosedFrom schema options filter.leaves (posed native) := by
  induction filter using Filter.induction generalizing native with
  | all children ih =>
      by_cases hne : children = []
      · subst hne
        obtain rfl : [] = native := by simpa [toNative] using h
        exact .nil
      · rw [toNative_all hne, Except.map_eq_ok_iff] at h
        obtain ⟨natives, hnatives, rfl⟩ := h
        simpa [posed, posedByValue, leaves] using posedFrom_toNatives ih hnatives
  | any children ih =>
      by_cases hne : children = []
      · subst hne
        obtain rfl : matchNothing options = native := by simpa [toNative] using h
        exact ⟨by simp [leaves, leavesOf], by simp [posed, posedByValue, matchNothing,
          CompareOp.native]⟩
      · rw [toNative_any hne, Except.map_eq_ok_iff] at h
        obtain ⟨natives, hnatives, rfl⟩ := h
        simpa [posed, posedByValue, leaves] using posedFrom_toNatives ih hnatives
  | compare c =>
      rw [toNative, nativeComparison_eq_ok_iff] at h
      obtain ⟨hfits, condition, hcondition, rfl⟩ := h
      simp only [leaves, posed, posedByValue, List.append_nil]
      constructor
      · simpa using ⟨hfits, condition, hcondition, List.Subset.refl condition⟩
      · intro entry hentry
        exact .inr ⟨c, List.mem_singleton_self c, condition, hcondition, hentry⟩

/-! ### Operands that are read -/

theorem not_isDisguised_ofJson (op : CompareOp) (attr : String) (value : Json) :
    ¬Comparison.IsDisguised ⟨attr, op, .ofJson value⟩ := by
  cases op <;> cases value <;> simp [Comparison.IsDisguised, Operand.ofJson]

theorem not_isDisguised_of_constraintsOn {attr : String} {value : Json}
    (hc : c ∈ Clause.constraintsOn attr value) : ¬c.IsDisguised := by
  cases value with
  | object fields =>
      obtain ⟨⟨modifier, operand⟩, -, rfl⟩ := List.mem_map.mp hc
      exact not_isDisguised_ofJson _ attr operand
  | _ =>
      obtain rfl := List.mem_singleton.mp hc
      exact not_isDisguised_ofJson _ attr _

theorem not_isDisguised_of_entries {fields : List (String × Json)}
    (h : ∀ field ∈ fields, ∀ c ∈ Clause.constraintsOfEntry field.1 field.2, ¬c.IsDisguised) :
    ∀ c ∈ Clause.constraintsOfEntries fields, ¬c.IsDisguised := by
  induction fields with
  | nil => simp [Clause.constraintsOfEntries]
  | cons field rest ih =>
      rw [List.forall_mem_cons] at h
      rw [Clause.constraintsOfEntries, List.forall_mem_append]
      exact ⟨h.1, ih h.2⟩

theorem not_isDisguised_of_branches {items : List Json}
    (h : ∀ item ∈ items, ∀ c ∈ Clause.constraints item, ¬c.IsDisguised) :
    ∀ c ∈ Clause.constraintsOfBranches items, ¬c.IsDisguised := by
  induction items with
  | nil => simp [Clause.constraintsOfBranches]
  | cons item rest ih =>
      rw [List.forall_mem_cons] at h
      rw [Clause.constraintsOfBranches, List.forall_mem_append]
      exact ⟨h.1, ih h.2⟩

/-- No operand of a clause is disguised, wherever in the clause it stands. -/
theorem not_isDisguised_of_constraints (value : Json) :
    (∀ c ∈ Clause.constraints value, ¬c.IsDisguised) ∧
      ∀ key, ∀ c ∈ Clause.constraintsOfEntry key value, ¬c.IsDisguised := by
  induction value using Json.induction with
  | object fields ih =>
      refine ⟨not_isDisguised_of_entries fun field hfield => (ih field hfield).2 field.1,
        fun key c hc => ?_⟩
      simp only [Clause.constraintsOfEntry] at hc
      exact not_isDisguised_of_constraintsOn hc
  | array items ih =>
      refine ⟨by simp [Clause.constraints], fun key c hc => ?_⟩
      rw [Clause.constraintsOfEntry] at hc
      split at hc
      · exact not_isDisguised_of_branches (fun item hitem => (ih item hitem).1) c hc
      · exact not_isDisguised_of_constraintsOn hc
  | null | bool | number | string =>
      refine ⟨by simp [Clause.constraints], fun key c hc => ?_⟩
      simp only [Clause.constraintsOfEntry] at hc
      exact not_isDisguised_of_constraintsOn hc

/-! ### The table -/

theorem admits_iff_of_mem {op : CompareOp} (hfits : c.fits = true)
    (hcondition : nativeCondition schema options c = .ok condition)
    (h : (op.native, operand) ∈ condition) : op = c.op ∧ (op.Admits operand ↔ ¬c.IsDisguised) := by
  by_cases hop : c.op = .like
  · obtain ⟨attr, op, operand⟩ := c
    obtain rfl : op = .like := hop
    obtain ⟨pattern, rfl⟩ := eq_string_of_fits hfits
    obtain rfl := Except.ok.inj hcondition
    obtain ⟨rfl, rfl⟩ := eq_like_of_mem_likeCondition h
    exact ⟨rfl, iff_of_true ⟨_, rfl⟩ id⟩
  · obtain ⟨rfl, htarget⟩ := eq_of_mem_nativeCondition hop hcondition h
    exact ⟨rfl, admits_iff hfits hop htarget⟩

/-- A translated filter follows the table of operands if, and only if, none of its comparisons
disguises null or an array as a scalar. Sets, presence and patterns are always posed by the table,
and so is everything in the filter of a clause. -/
theorem followsTable_iff (h : toNative schema options filter = .ok native) :
    (FollowsTable native ↔ ∀ c ∈ filter.leaves, ¬c.IsDisguised) ∧
    (∀ op ∈ [CompareOp.isIn, .notIn, .isPresent, .like], ∀ operand,
      (op.native, operand) ∈ posed native → op.Admits operand) ∧
    ∀ clause, ofWhere clause = .ok filter → FollowsTable native := by
  obtain ⟨hposes, hsource⟩ := posedFrom_toNative h
  have hadmits (op : CompareOp) (operand : Native) (hmem : (op.native, operand) ∈ posed native)
      (hplain : ∀ c ∈ filter.leaves, op = c.op → ¬c.IsDisguised) : op.Admits operand := by
    obtain heq | ⟨c, hc, condition, hcondition, hentry⟩ := hsource _ hmem
    · obtain ⟨hop, rfl⟩ := Prod.mk.inj heq
      obtain rfl := CompareOp.native_injective hop
      exact ⟨[], rfl⟩
    · obtain ⟨hop, hiff⟩ := admits_iff_of_mem (hposes c hc).1 hcondition hentry
      exact hiff.mpr (hplain c hc hop)
  refine ⟨⟨fun htable c hc => ?_, fun hplain op operand hmem => ?_⟩,
    fun op hop operand hmem => ?_, fun clause hclause op operand hmem => ?_⟩
  · obtain ⟨hfits, condition, hcondition, hsubset⟩ := hposes c hc
    by_cases hop : c.op = .like
    · simp [Comparison.IsDisguised, hop]
    · obtain ⟨target, htarget, hentry⟩ := mem_nativeCondition hop hcondition
      exact (admits_iff hfits hop htarget).mp (htable c.op target (hsubset hentry))
  · exact hadmits op operand hmem fun c hc _ => hplain c hc
  · refine hadmits op operand hmem fun c _ heq => ?_
    simp only [List.mem_cons, List.not_mem_nil, or_false] at hop
    rcases hop with rfl | rfl | rfl | rfl <;> simp [Comparison.IsDisguised, ← heq]
  · refine hadmits op operand hmem fun c hc _ => ?_
    rw [(says_ofWhere hclause).leaves_eq] at hc
    exact (not_isDisguised_of_constraints clause).1 c hc

/-- Order, a set and presence below two combinators, with a disjunction that is empty; and a null
beside them that is called a scalar. -/
theorem followsTable_iff_dogs :
    let dogs : Filter := .any [.all [of .gte "age" (.int 2), isIn "name" [.string "rex", .null]],
      .any [], isPresent "owner" true]
    let hidden : Filter := .all [dogs, .compare ⟨"age", .lt, .scalar .null⟩]
    (∃ native, toNative .empty .default dogs = .ok native ∧ FollowsTable native) ∧
      ∃ native, toNative .empty .default hidden = .ok native ∧ ¬FollowsTable native := by
  intro dogs hidden
  have hdogs := (@followsTable_iff .empty .default dogs _ rfl).1
  have hhidden := (@followsTable_iff .empty .default hidden _ rfl).1
  refine ⟨⟨_, rfl, hdogs.mpr ?_⟩, ⟨_, rfl, fun htable => ?_⟩⟩
  · simp [dogs, leaves, leavesOf, of, isIn, isPresent, Comparison.IsDisguised, Operand.ofJson,
      Json.int]
  · refine hhidden.mp htable ⟨"age", .lt, .scalar .null⟩ ?_ (.inl rfl)
    simp [hidden, leaves, leavesOf]

/-- A null and a list that are called scalars in the form of a filter reach the store, the one below
an order and the other below an equality. -/
theorem not_followsTable_of_scalars :
    let form (op : String) (value : Json) : Json := .object [("Compare", .object
      [("attribute", .string "a"), ("op", .string op), ("operand", .object [("Scalar", value)])])]
    (∃ filter native, ofForm? (form "lt" .null) = some filter ∧
      toNative .empty .default filter = .ok native ∧ ("$lt", .null) ∈ posed native ∧
      ¬FollowsTable native) ∧
    ∃ filter native, ofForm? (form "eq" (.array [.int 1])) = some filter ∧
      toNative .empty .default filter = .ok native ∧ ("$eq", .array [.int64 1]) ∈ posed native ∧
      ¬FollowsTable native := by
  intro form
  refine ⟨⟨.compare ⟨"a", .lt, .scalar .null⟩, _, rfl, rfl, .head _, fun htable => ?_⟩,
    ⟨.compare ⟨"a", .eq, .scalar (.array [.int 1])⟩, _, rfl, rfl, .head _, fun htable => ?_⟩⟩
  · exact (htable .lt .null (.head _)).1 rfl
  · exact htable .eq (.array [.int64 1]) (.head _) _ rfl

end Filter

end StageThree
