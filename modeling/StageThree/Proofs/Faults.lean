import StageThree.Proofs.Compilation
import StageThree.Proofs.Policies

/-!
Which filters are translated, and what is reported of the others. A comparison is at fault if its
operand does not have the shape that the operator takes, or if it has an integer beyond the signed
range in it, at any depth. Patterns are not converted, so that the shape is all that counts there.
A filter is translated if none of its comparisons is at fault, and the fault that it reports is
that of the leftmost one, whatever the combinators between them.
-/

namespace StageThree

open Json (isBig)

def Operand.values : Operand → List Json
  | .null => []
  | .scalar value => [value]
  | .set values => values

namespace Comparison

/-- Whether the operand is converted and has an integer beyond the signed range in it. -/
def isOutOfRange (c : Comparison) : Bool :=
  c.op ≠ .like && c.operand.values.any (Json.somewhere isBig)

/-- What is wrong with a comparison: the shape of its operand, before the values in it. -/
def fault? (c : Comparison) : Option TranslateError :=
  if c.fits = false then some (.malformed (.operandKind c.op c.attr c.operand.kind))
  else if c.isOutOfRange then some (.coercion (.invalidNative c.attr))
  else none

variable {c : Comparison}

theorem check_eq_ok_iff : c.check = .ok () ↔ c.fits = true := by
  unfold check
  split <;> simp [*]

theorem isOutOfRange_eq_false_iff :
    c.isOutOfRange = false ↔
      (c.op ≠ .like → ∀ value ∈ c.operand.values, value.somewhere isBig = false) := by
  by_cases h : c.op = .like <;> simp [isOutOfRange, h]

theorem fault?_eq_none_iff :
    c.fault? = none ↔ c.check = .ok () ∧
      (c.op ≠ .like → ∀ value ∈ c.operand.values, value.somewhere isBig = false) := by
  rw [check_eq_ok_iff, ← isOutOfRange_eq_false_iff, fault?]
  cases c.fits <;> cases c.isOutOfRange <;> simp

end Comparison

namespace Filter

variable {schema : ModelSchema} {options : TranslateOptions} {attr : String} {value : Json}
  {values : List Json} {operand : Operand} {c : Comparison} {filter : Filter}
  {children : List Filter} {cause : TranslateError}

/-! ### Operands -/

theorem nativeOperand_of_big (h : value.somewhere isBig = true) :
    nativeOperand schema attr value = .error (.invalidNative attr) := by
  unfold nativeOperand Coercion.nativeIdentifier
  rw [Coercion.native_of_big attr h]
  split <;> rfl

theorem exists_nativeOperand (schema : ModelSchema) (attr : String)
    (h : value.somewhere isBig = false) :
    ∃ target, nativeOperand schema attr value = .ok target := by
  unfold nativeOperand Coercion.nativeIdentifier
  rw [Coercion.native_of_small attr h]
  split <;> exact ⟨_, rfl⟩

/-- The first of the large integers in a set decides, whichever it is. -/
theorem nativeOperands_of_big (h : values.any (Json.somewhere isBig) = true) :
    nativeOperands schema attr values = .error (.invalidNative attr) := by
  induction values with
  | nil => cases h
  | cons value rest ih =>
      rw [nativeOperands]
      cases hvalue : value.somewhere isBig with
      | true => rw [nativeOperand_of_big hvalue, Except.error_bind]
      | false =>
          obtain ⟨target, htarget⟩ := exists_nativeOperand schema attr hvalue
          rw [htarget, Except.ok_bind, ih (by simpa [hvalue] using h), Except.error_bind]

theorem exists_nativeOperands (schema : ModelSchema) (attr : String)
    (h : values.any (Json.somewhere isBig) = false) :
    ∃ targets, nativeOperands schema attr values = .ok targets := by
  induction values with
  | nil => exact ⟨[], rfl⟩
  | cons value rest ih =>
      rw [List.any_cons, Bool.or_eq_false_iff] at h
      obtain ⟨target, htarget⟩ := exists_nativeOperand schema attr h.1
      obtain ⟨targets, htargets⟩ := ih h.2
      exact ⟨target :: targets, by rw [nativeOperands, htarget, htargets]; rfl⟩

theorem nativeTarget_of_big (h : operand.values.any (Json.somewhere isBig) = true) :
    nativeTarget schema attr operand = .error (.invalidNative attr) := by
  cases operand with
  | null => cases h
  | scalar value => exact nativeOperand_of_big (by simpa [Operand.values] using h)
  | set values =>
      rw [Operand.values] at h
      rw [nativeTarget, nativeOperands_of_big h, Except.map]

theorem exists_nativeTarget (schema : ModelSchema) (attr : String)
    (h : operand.values.any (Json.somewhere isBig) = false) :
    ∃ target, nativeTarget schema attr operand = .ok target := by
  cases operand with
  | null => exact ⟨.null, rfl⟩
  | scalar value => exact exists_nativeOperand schema attr (by simpa [Operand.values] using h)
  | set values =>
      rw [Operand.values] at h
      obtain ⟨targets, htargets⟩ := exists_nativeOperands schema attr h
      exact ⟨.array targets, by rw [nativeTarget, htargets, Except.map]⟩

/-! ### Comparisons -/

theorem nativeCondition_of_outOfRange (h : c.isOutOfRange = true) :
    nativeCondition schema options c = .error (.invalidNative c.attr) := by
  obtain ⟨hop, hbig⟩ : c.op ≠ .like ∧ c.operand.values.any (Json.somewhere isBig) = true := by
    simpa [Comparison.isOutOfRange] using h
  rw [nativeCondition_eq_map hop, nativeTarget_of_big hbig, Except.map]

theorem exists_nativeCondition (schema : ModelSchema) (options : TranslateOptions)
    (hfits : c.fits = true) (h : c.isOutOfRange = false) :
    ∃ condition, nativeCondition schema options c = .ok condition := by
  by_cases hop : c.op = .like
  · obtain ⟨attr, op, operand⟩ := c
    obtain rfl : op = .like := hop
    obtain ⟨pattern, rfl⟩ := eq_string_of_fits hfits
    exact ⟨_, rfl⟩
  · rw [nativeCondition_eq_map hop, Except.exists_map_eq_ok_iff]
    exact exists_nativeTarget schema c.attr (by simpa [Comparison.isOutOfRange, hop] using h)

theorem nativeComparison_eq_error_iff :
    nativeComparison schema options c = .error cause ↔ c.fault? = some cause := by
  unfold nativeComparison Comparison.check Comparison.fault?
  cases hfits : c.fits with
  | false => simp
  | true =>
      cases hrange : c.isOutOfRange with
      | true => simp [nativeCondition_of_outOfRange hrange]
      | false =>
          obtain ⟨condition, hcondition⟩ := exists_nativeCondition schema options hfits hrange
          simp [hcondition]

/-! ### Filters -/

theorem toNatives_eq_error_iff
    (h : ∀ child ∈ children, ∀ cause, toNative schema options child = .error cause ↔
      child.leaves.findSome? Comparison.fault? = some cause) :
    toNatives schema options children = .error cause ↔
      (leavesOf children).findSome? Comparison.fault? = some cause := by
  induction children with
  | nil => simp [toNatives, leavesOf]
  | cons child rest ih =>
      rw [List.forall_mem_cons] at h
      obtain ⟨hchild, hrest⟩ := h
      rw [toNatives, leavesOf, List.findSome?_append, Except.bind_eq_error_iff,
        Option.or_eq_some_iff, hchild, ← Except.exists_eq_ok_iff_eq_none hchild]
      simp only [Except.bind_eq_error_iff, ih hrest, Except.pure_ne_error, and_false, exists_false,
        or_false, exists_and_right]

/-- A filter reports the fault of its leftmost comparison that is at fault. -/
theorem toNative_eq_error_iff (filter : Filter) (cause : TranslateError) :
    toNative schema options filter = .error cause ↔
      filter.leaves.findSome? Comparison.fault? = some cause := by
  induction filter using Filter.induction generalizing cause with
  | all children ih =>
      by_cases hne : children = []
      · subst hne
        simp [toNative, leaves, leavesOf]
      · rw [toNative_all hne, Except.map_eq_error_iff, leaves, toNatives_eq_error_iff ih]
  | any children ih =>
      by_cases hne : children = []
      · subst hne
        simp [toNative, leaves, leavesOf]
      · rw [toNative_any hne, Except.map_eq_error_iff, leaves, toNatives_eq_error_iff ih]
  | compare c =>
      rw [toNative, nativeComparison_eq_error_iff, leaves]
      cases h : c.fault? <;> simp [h]

theorem toNatives_under (policy : CoercionPolicy)
    (h : ∀ child ∈ children,
      toNative schema (options.under policy) child = toNative schema options child) :
    toNatives schema (options.under policy) children = toNatives schema options children := by
  induction children with
  | nil => rfl
  | cons child rest ih =>
      rw [List.forall_mem_cons] at h
      rw [toNatives, toNatives, h.1, ih h.2]

/-- Operands are converted alike under each policy. -/
theorem toNative_under (policy : CoercionPolicy) (filter : Filter) :
    toNative schema (options.under policy) filter = toNative schema options filter := by
  induction filter using Filter.induction with
  | all children ih =>
      by_cases hne : children = []
      · subst hne
        rfl
      · rw [toNative_all hne, toNative_all hne, toNatives_under policy ih]
  | any children ih =>
      by_cases hne : children = []
      · subst hne
        rfl
      · rw [toNative_any hne, toNative_any hne, toNatives_under policy ih]
  | compare c => rfl

/-- A filter is translated if all of its comparisons have operands of the right shape and, apart
from patterns, without integers beyond the signed range. Otherwise it fails as its leftmost
comparison at fault does on its own. The policy has no part in it. -/
theorem toNative_reports_leftmost (schema : ModelSchema) (options : TranslateOptions)
    (filter : Filter) :
    ((∃ native, toNative schema options filter = .ok native) ↔
      ∀ c ∈ filter.leaves, c.check = .ok () ∧
        (c.op ≠ .like → ∀ value ∈ c.operand.values, value.somewhere isBig = false)) ∧
    (∀ cause, toNative schema options filter = .error cause ↔
      ∃ before c after, filter.leaves = before ++ c :: after ∧
        (∀ earlier ∈ before, ∃ native, toNative schema options (.compare earlier) = .ok native) ∧
        toNative schema options (.compare c) = .error cause) ∧
    (∀ c cause, toNative schema options (.compare c) = .error cause ↔ c.fault? = some cause) ∧
    ∀ policy, toNative schema (options.under policy) filter = toNative schema options filter := by
  have hcompare (c : Comparison) (cause : TranslateError) :
      toNative schema options (.compare c) = .error cause ↔ c.fault? = some cause :=
    nativeComparison_eq_error_iff
  refine ⟨?_, fun cause => ?_, hcompare, fun policy => toNative_under policy filter⟩
  · rw [Except.exists_eq_ok_iff_eq_none (toNative_eq_error_iff filter), List.findSome?_eq_none_iff]
    exact forall₂_congr fun c _ => Comparison.fault?_eq_none_iff
  · rw [toNative_eq_error_iff, List.findSome?_eq_some_iff]
    simp only [hcompare, Except.exists_eq_ok_iff_eq_none (hcompare _), and_comm]

end Filter

end StageThree
