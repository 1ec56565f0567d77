import Mathlib.Data.List.Forall2
import StageThree.Store.Predicate
import StageThree.Proofs.LikePattern
import StageThree.Proofs.Recursion

/-!
What compiling a native filter comes to, clause by clause. The lemmas follow the compiler's own
functions: the branches of a combinator are compiled one by one, a name that is no operator's
leads to conditions on a path, and each operator of a translated comparison has its condition.
-/

namespace StageThree

/-! ### Combinators on their way into the store's language -/

namespace Filter

variable {schema : ModelSchema} {options : TranslateOptions} {children : List Filter}

theorem toNatives_eq_ok_iff {natives : List Native} :
    toNatives schema options children = .ok natives ↔
      List.Forall₂ (fun child native => ∃ document,
        toNative schema options child = .ok document ∧ native = .document document)
        children natives := by
  induction children generalizing natives with
  | nil => simp [toNatives, eq_comm]
  | cons child rest ih =>
      simp only [toNatives, Except.bind_eq_ok_iff, Except.pure_eq_ok_iff, ih,
        List.forall₂_cons_left_iff]
      constructor
      · rintro ⟨document, hdocument, natives, hnatives, rfl⟩
        exact ⟨_, natives, ⟨document, hdocument, rfl⟩, hnatives, rfl⟩
      · rintro ⟨_, natives, ⟨document, hdocument, rfl⟩, hnatives, rfl⟩
        exact ⟨document, hdocument, natives, hnatives, rfl⟩

theorem toNatives_ne_nil {natives : List Native} (h : children ≠ [])
    (hnatives : toNatives schema options children = .ok natives) : natives ≠ [] := by
  rintro rfl
  cases toNatives_eq_ok_iff.mp hnatives
  exact h rfl

theorem toNative_all (h : children ≠ []) :
    toNative schema options (.all children) =
      (toNatives schema options children).map fun natives => [("$and", .array natives)] := by
  obtain ⟨child, rest, rfl⟩ := List.exists_cons_of_ne_nil h
  simp only [toNative, toNatives]
  cases toNative schema options child with
  | error e => rfl
  | ok first => cases toNatives schema options rest <;> rfl

theorem toNative_any (h : children ≠ []) :
    toNative schema options (.any children) =
      (toNatives schema options children).map fun natives => [("$or", .array natives)] := by
  obtain ⟨child, rest, rfl⟩ := List.exists_cons_of_ne_nil h
  simp only [toNative, toNatives]
  cases toNative schema options child with
  | error e => rfl
  | ok first => cases toNatives schema options rest <;> rfl

theorem eq_string_of_fits {attr : String} {operand : Operand}
    (h : Comparison.fits ⟨attr, .like, operand⟩ = true) :
    ∃ pattern, operand = .scalar (.string pattern) := by
  unfold Comparison.fits at h
  split at h <;> simp_all

theorem eq_bool_of_fits {attr : String} {operand : Operand}
    (h : Comparison.fits ⟨attr, .isPresent, operand⟩ = true) :
    ∃ present, operand = .scalar (.bool present) := by
  unfold Comparison.fits at h
  split at h <;> simp_all

theorem nativeComparison_eq_ok_iff {c : Comparison} {native : Document} :
    nativeComparison schema options c = .ok native ↔
      c.fits = true ∧ ∃ condition, nativeCondition schema options c = .ok condition ∧
        native = [(nativeField schema options c.attr, .document condition)] := by
  unfold nativeComparison Comparison.check
  cases c.fits <;> cases nativeCondition schema options c <;> simp [eq_comm]

def nativeTarget (schema : ModelSchema) (attr : String) : Operand → Except CoercionError Native
  | .null => .ok .null
  | .scalar value => nativeOperand schema attr value
  | .set values => (nativeOperands schema attr values).map .array

/-- Every operator but that of a pattern is posed with the native value of its operand. -/
theorem nativeCondition_eq_map {c : Comparison} (h : c.op ≠ .like) :
    nativeCondition schema options c =
      (nativeTarget schema c.attr c.operand).map fun target => [(c.op.native, target)] := by
  obtain ⟨attr, op, operand⟩ := c
  cases op with
  | like => exact absurd rfl h
  | _ =>
      cases operand with
      | null => rfl
      | scalar value =>
          simp only [nativeCondition, nativeTarget]
          cases nativeOperand schema attr value <;> rfl
      | set values =>
          simp only [nativeCondition, nativeTarget]
          cases nativeOperands schema attr values <;> rfl

theorem whereToNative_eq_ok_iff {clause : Json} {native : Document} :
    whereToNative schema options clause = .ok native ↔
      ∃ filter, ofWhere clause = .ok filter ∧ toNative schema options filter = .ok native := by
  unfold whereToNative
  cases ofWhere clause <;> simp

theorem nativeField_primaryKey :
    nativeField schema options schema.primaryKey = options.nativeKey := by
  simp [nativeField, ModelSchema.isPrimaryKey]

theorem nativeField_of_ne {attr : String} (h : attr ≠ schema.primaryKey) :
    nativeField schema options attr = attr := by
  simp [nativeField, ModelSchema.isPrimaryKey, Ne.symm h]

/-- An attribute without an operator's name leads to a field without one. -/
theorem isOperator_nativeField {attr : String} (hkey : isOperator options.nativeKey = false)
    (h : isOperator attr = false ∨ attr = schema.primaryKey) :
    isOperator (nativeField schema options attr) = false := by
  by_cases hattr : attr = schema.primaryKey
  · rw [hattr, nativeField_primaryKey]
    exact hkey
  · rw [nativeField_of_ne hattr]
    exact h.resolve_right hattr

end Filter

/-! ### Combinators on their way to a predicate -/

namespace Predicate

variable {depth : Nat} {combinator key : String}

theorem compile_eq_ok_iff {filter : Document} {predicate : Predicate} :
    compile filter = .ok predicate ↔
      ∃ predicates, clauses 0 filter = .ok predicates ∧ .all predicates = predicate :=
  Except.map_eq_ok_iff

theorem clauses_single (depth : Nat) (key : String) (value : Native) :
    clauses depth [(key, value)] = (clause depth key value).map ([·]) := by
  simp only [clauses]
  cases clause depth key value <;> rfl

theorem nonempty_of_ne_nil {items : List Native} (h : items ≠ []) :
    nonempty depth combinator items = branches (depth + 1) combinator items := by
  obtain ⟨item, rest, rfl⟩ := List.exists_cons_of_ne_nil h
  simp only [nonempty, branches]

theorem clauses_and {items : List Native} (h : items ≠ []) :
    clauses depth [("$and", .array items)] =
      (branches (depth + 1) "$and" items).map fun inner => [.all inner] := by
  rw [clauses_single, clause, if_pos rfl, nonempty_of_ne_nil h]
  cases branches (depth + 1) "$and" items <;> rfl

theorem clauses_or {items : List Native} (h : items ≠ []) :
    clauses depth [("$or", .array items)] =
      (branches (depth + 1) "$or" items).map fun inner => [.any inner] := by
  rw [clauses_single, clause, if_neg (by decide), if_pos rfl, nonempty_of_ne_nil h]
  cases branches (depth + 1) "$or" items <;> rfl

theorem branch_document_eq_ok_iff {fields : Document} {predicate : Predicate} :
    branch depth combinator (.document fields) = .ok predicate ↔
      depth ≤ Rejection.maxDepth ∧
        ∃ inner, clauses depth fields = .ok inner ∧ .all inner = predicate := by
  unfold branch
  split
  · simp only [reduceCtorEq, false_iff, not_and]
    omega
  · simp only [Except.map_eq_ok_iff, iff_and_self]
    omega

theorem ne_combinators (h : isOperator key = false) : key ≠ "$and" ∧ key ≠ "$or" := by
  constructor <;> rintro rfl <;> exact absurd h (by decide)

/-- A name that is no operator's is a path. -/
theorem clause_path (depth : Nat) (value : Native) (h : isOperator key = false) :
    clause depth key value = (Condition.ofValue key value).map (.field key) := by
  obtain ⟨hand, hor⟩ := ne_combinators h
  -- arrays have equations of their own, since a combinator takes nothing else
  cases value <;> simp [clause, hand, hor, h]

theorem clauses_path (depth : Nat) (h : isOperator key = false) (value : Native) :
    clauses depth [(key, value)] =
      (Condition.ofValue key value).map fun posed => [.field key posed] := by
  rw [clauses_single, clause_path depth value h]
  cases Condition.ofValue key value <;> rfl

/-- An operator's name does not head a document of conditions. -/
theorem isOperator_eq_false_of_clauses {fields : Document} {predicates : List Predicate}
    (h : clauses depth [(key, .document fields)] = .ok predicates) : isOperator key = false := by
  rw [clauses_single, clause] at h
  by_cases hkey : isOperator key = true
  · by_cases hcombinator : key = "$and" ∨ key = "$or" <;> simp [hcombinator, hkey] at h
  · simpa using hkey
  · rintro items ⟨⟩

end Predicate

/-! ### Conditions -/

/-- The condition that an operator poses with a target. A pattern is posed by more than one
operator, so that it has none here. -/
def CompareOp.condition? : CompareOp → Native → Option Condition
  | .eq, target => some (.eq target)
  | .ne, target => some (.ne target)
  | .lt, target => some (.lt target)
  | .lte, target => some (.lte target)
  | .gt, target => some (.gt target)
  | .gte, target => some (.gte target)
  | .isIn, .array targets => some (.isIn targets)
  | .notIn, .array targets => some (.notIn targets)
  | .isPresent, target => some (.isPresent (Condition.truth target))
  | _, _ => none

namespace Condition

theorem regex_like (path : String) (ignoresCase : Bool) (pattern : String) :
    regex path (if ignoresCase then "i" else "") (.string (Like.toRegex pattern)) =
      .ok (Like.regex ignoresCase pattern) := by
  have hflags : regexFlags path .default ("".toList ++ (if ignoresCase then "i" else "").toList) =
      .ok (Like.flags ignoresCase) := by
    cases ignoresCase <;> rfl
  simp only [regex, Except.bind_eq_ok_iff]
  exact ⟨(Like.toRegex pattern, ""), rfl, Like.flags ignoresCase, hflags, by
    simp [Like.parse?_toRegex, pure, Except.pure]⟩

/-- A pattern is one condition; the options beside it are no condition of their own. -/
theorem ofValue_likeCondition (path : String) (options : TranslateOptions) (pattern : String) :
    ofValue path (.document (Filter.likeCondition options pattern)) =
      .ok [.isMatch (Like.regex options.likeIgnoresCase pattern)] := by
  have hregex := regex_like path options.likeIgnoresCase pattern
  cases hcase : options.likeIgnoresCase <;>
    simp only [hcase, Bool.false_eq_true, if_true, if_false] at hregex <;>
    simp [Filter.likeCondition, hcase, ofValue, ofOperators, ofOperator, optionsOf, Fields.get?,
      Fields.contains, isOperator, hregex, bind, Except.bind, pure, Except.pure]

/-- A document of one operator poses that operator's condition. -/
theorem ofValue_native (path : String) {op : CompareOp} {target : Native} {posed : Condition}
    (h : op.condition? target = some posed) :
    ofValue path (.document [(op.native, target)]) = .ok [posed] := by
  unfold CompareOp.condition? at h
  split at h <;> cases h <;>
    simp [CompareOp.native, ofValue, ofOperators, ofOperator, targets, optionsOf, Fields.get?,
      isOperator, bind, Except.bind, pure, Except.pure]

/-- The clause that asks for a key out of no keys is a condition that nothing meets. -/
theorem ofValue_noKeys (path : String) :
    ofValue path (.document [("$in", .array [])]) = .ok [.isIn []] :=
  @ofValue_native path .isIn (.array []) _ rfl

end Condition

/-! ### One comparison -/

namespace Filter

def single (path : String) (op : CompareOp) (target : Native) : Document :=
  [(path, .document [(op.native, target)])]

variable {schema : ModelSchema} {options : TranslateOptions} {path : String} {clause : Json}
  {c : Comparison} {op : CompareOp} {target : Native} {posed : Condition}

/-- A comparison that is no pattern fails only if its operand does not convert. -/
theorem toNative_compare (hfits : c.fits = true) (hop : c.op ≠ .like) :
    toNative schema options (.compare c) =
      ((nativeTarget schema c.attr c.operand).map
        (single (nativeField schema options c.attr) c.op)).mapError .coercion := by
  rw [toNative, nativeComparison, Comparison.check, if_pos hfits, nativeCondition_eq_map hop]
  cases nativeTarget schema c.attr c.operand <;> rfl

theorem whereToNative_compare (schema : ModelSchema) (options : TranslateOptions)
    (hclause : ofWhere clause = .ok (.compare c)) (hfits : c.fits = true) (hop : c.op ≠ .like) :
    whereToNative schema options clause =
      ((nativeTarget schema c.attr c.operand).map
        (single (nativeField schema options c.attr) c.op)).mapError .coercion := by
  rw [whereToNative, hclause]
  exact toNative_compare hfits hop

theorem compile_single (op : CompareOp) (hpath : isOperator path = false)
    (hposed : op.condition? target = some posed) :
    Predicate.compile (single path op target) = .ok (.all [.field path [posed]]) := by
  rw [Predicate.compile, single, Predicate.clauses_path 0 hpath,
    Condition.ofValue_native path hposed]
  rfl

end Filter

end StageThree
