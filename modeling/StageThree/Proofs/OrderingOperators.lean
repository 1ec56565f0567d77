import StageThree.Proofs.ClauseTests
import StageThree.Proofs.KeyLookup

/-!
Ordering operators beside equality. They are written apart: equality also takes an array as a
whole, takes null for what is absent and goes by structure where nothing compares, and an order
tests the elements one by one. For a scalar these differences have no effect. Equality is the
comparison that accepts `eq`, so that an order that is not strict is the strict one or equality.
-/

namespace StageThree

open Json (isBig)

/-! ### Conditions -/

namespace Condition

variable {target : Native} {found : Option Native}

theorem equals_eq_ordered (h : target.isTarget = true) (found : Option Native) :
    equals target found = ordered target (· == .eq) found := by
  have hnull : target ≠ .null := by
    rintro rfl
    cases h
  rw [Bool.eq_iff_iff, equals_iff, ordered_iff]
  simp [Equals, Compares, hnull, Native.equal_iff_order? h]

/-- An order that also accepts `eq` is the strict one or equality, in an array also at different
elements. -/
theorem ordered_weak_iff {weak strict : Ordering → Bool}
    (h : ∀ order, weak order = (strict order || order == .eq)) :
    ordered target weak found = true ↔
      ordered target strict found = true ∨ ordered target (· == .eq) found = true := by
  simp only [ordered_iff, Compares, h, Bool.or_eq_true, and_or_left, exists_or]

/-- A single value has one outcome at most. -/
theorem one_outcome (target : Native) (h : ∀ items, found ≠ some (.array items)) :
    [Ordering.lt, .eq, .gt].countP (fun order => ordered target (· == order) found) ≤ 1 := by
  cases found with
  | none => exact Nat.zero_le 1
  | some value =>
      have hordered (accepts : Ordering → Bool) :
          ordered target accepts (some value) = (value.order? target).any accepts := by
        cases value with
        | array items => exact absurd rfl (h items)
        | _ => rfl
      simp only [hordered]
      cases value.order? target with
      | none => exact Nat.zero_le 1
      | some order => cases order <;> decide

end Condition

/-! ### Clauses -/

def CompareOp.accepts? : CompareOp → Option (Ordering → Bool)
  | .eq => some (· == .eq)
  | .lt => some (· == .lt)
  | .lte => some (· != .gt)
  | .gt => some (· == .gt)
  | .gte => some (· != .lt)
  | _ => none

namespace Filter

variable {schema : ModelSchema} {options : TranslateOptions} {attr modifier : String}
  {clause value : Json} {target : Native} {op : CompareOp} {accepts : Ordering → Bool}

theorem fits_of_accepts? (attr : String) (hop : op.accepts? = some accepts)
    (hvalue : value.isScalar = true) : Comparison.fits ⟨attr, op, .ofJson value⟩ = true := by
  cases op with
  | eq | lt | lte | gt | gte => cases value <;> first | rfl | cases hvalue
  | _ => cases hop

theorem exists_condition (hop : op.accepts? = some accepts) (htarget : target.isTarget = true) :
    ∃ posed, op.condition? target = some posed ∧
      ∀ found, posed.holds found = Condition.ordered target accepts found := by
  cases op with
  | eq =>
      obtain rfl := Option.some.inj hop
      exact ⟨.eq target, rfl, Condition.equals_eq_ordered htarget⟩
  | lt | lte | gt | gte =>
      obtain rfl := Option.some.inj hop
      exact ⟨_, rfl, fun _ => rfl⟩
  | _ => cases hop

/-- A clause that compares with a scalar tests for the outcomes that its operator accepts. -/
theorem tests_ordered (hclause : ofWhere clause = .ok (.of op attr value))
    (hfield : isOperator (nativeField schema options attr) = false)
    (hop : op.accepts? = some accepts) (hvalue : value.isScalar = true)
    (htarget : nativeOperand schema attr value = .ok target) :
    Tests schema options clause fun document =>
      Condition.ordered target accepts
        (Path.lookup document (nativeField schema options attr)) := by
  obtain ⟨posed, hposed, hholds⟩ := exists_condition hop (isTarget_nativeOperand hvalue htarget).1
  have hlike : op ≠ .like := by
    rintro rfl
    cases hop
  rw [← nativeTarget_ofJson (.inl hvalue)] at htarget
  have htests := tests_of_compare (c := ⟨attr, op, .ofJson value⟩) posed hclause
    (fits_of_accepts? attr hop hvalue) hlike hfield htarget hposed
  simpa only [hholds] using htests

/-- An order that is not strict holds where the strict one does or equality, whatever the document
has at the attribute's place. Of the strict orders and equality one at most holds, unless that is
an array. -/
theorem ordering_coherent (hcombinator : attr ≠ "and" ∧ attr ≠ "or")
    (hfield : isOperator (nativeField schema options attr) = false)
    (hvalue : value.isScalar = true) (hsmall : isBig value = false) :
    ∃ less equal greater atMost atLeast : Document → Bool,
      Tests schema options (modified attr "<" value) less ∧
      Tests schema options (.object [(attr, value)]) equal ∧
      Tests schema options (modified attr ">" value) greater ∧
      Tests schema options (modified attr "<=" value) atMost ∧
      Tests schema options (modified attr ">=" value) atLeast ∧
      ∀ document,
        (atMost document = true ↔ less document = true ∨ equal document = true) ∧
        (atLeast document = true ↔ greater document = true ∨ equal document = true) ∧
        ((∀ items, Path.lookup document (nativeField schema options attr) ≠ some (.array items)) →
          [less, equal, greater].countP (fun test => test document) ≤ 1) := by
  rw [← Json.somewhere_of_isScalar isBig (.inl hvalue)] at hsmall
  obtain ⟨target, htarget⟩ := exists_nativeOperand schema attr hsmall
  have hmodified {modifier : String} {op : CompareOp} {accepts : Ordering → Bool}
      (hmodifier : CompareOp.ofModifier? modifier = some op) (hop : op.accepts? = some accepts) :=
    tests_ordered (ofWhere_modified hcombinator hmodifier value) hfield hop hvalue htarget
  refine ⟨_, _, _, _, _, hmodified rfl rfl,
    tests_ordered (ofWhere_equality hcombinator (.inl hvalue)) hfield rfl hvalue htarget,
    hmodified rfl rfl, hmodified rfl rfl, hmodified rfl rfl, fun document => ⟨?_, ?_, ?_⟩⟩
  · exact Condition.ordered_weak_iff fun order => by cases order <;> rfl
  · exact Condition.ordered_weak_iff fun order => by cases order <;> rfl
  · exact Condition.one_outcome target

def priced : Document := [("_id", .int32 1), ("price", .double (.ofNat 4))]

/-- A double is equal to an integer, and no order but equality holds between them. -/
theorem ordering_coherent_price :
    ∃ less equal atMost : Document → Bool,
      Tests .empty .default (modified "price" "<" (.int 4)) less ∧
      Tests .empty .default (.object [("price", .int 4)]) equal ∧
      Tests .empty .default (modified "price" "<=" (.int 4)) atMost ∧
      equal priced = true ∧ atMost priced = true ∧ less priced = false := by
  obtain ⟨less, equal, greater, atMost, atLeast, hless, hequal, -, hatMost, -, hcoherent⟩ :=
    @ordering_coherent .empty .default "price" (.int 4) (by decide) rfl rfl rfl
  obtain ⟨hle, -, hone⟩ := hcoherent priced
  have hpriced : equal priced = true := hequal.eq_holds rfl rfl priced
  have hsingle := hone (by rintro items ⟨⟩)
  refine ⟨less, equal, atMost, hless, hequal, hatMost, hpriced, hle.mpr (.inr hpriced), ?_⟩
  cases hlow : less priced with
  | false => rfl
  | true => simp [hlow, hpriced] at hsingle

end Filter

end StageThree
