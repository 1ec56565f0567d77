import StageThree.Proofs.Comparison
import StageThree.Store.Pipeline

/-!
The least and the greatest value of a group. The canonical order leaves gaps: values of one kind
may fail to compare, and then count as equal, although the values that each of them is equal to
need not be equal. What one pass over the values relies on is only that standing strictly below
another value is transitive, for every mix of kinds and widths.
-/

namespace StageThree

namespace Native

variable {a b c : Native}

/-- Whether a value stands strictly below another: its kind does, or it is less and of the same
kind. -/
def Below (a b : Native) : Prop :=
  a.kindRank < b.kindRank ∨ (a.kindRank = b.kindRank ∧ a.order? b = some .lt)

theorem not_below_self (value : Native) : ¬value.Below value := by
  rintro (hrank | ⟨-, hless⟩)
  · exact Nat.lt_irrefl _ hrank
  · exact order?_self_ne value (by decide) hless

theorem Below.trans (hab : a.Below b) (hbc : b.Below c) : a.Below c := by
  rcases hab with hab | ⟨hab, hless⟩
  · rcases hbc with hbc | ⟨hbc, -⟩
    · exact .inl (Nat.lt_trans hab hbc)
    · exact .inl (hbc ▸ hab)
  · rcases hbc with hbc | ⟨hbc, hmore⟩
    · exact .inl (hab ▸ hbc)
    · exact .inr ⟨hab.trans hbc, order?_trans hless hmore⟩

theorem canonicalOrder_eq_lt_iff : a.canonicalOrder b = .lt ↔ a.Below b := by
  have hvalue : (a.order? b).getD .eq = .lt ↔ a.order? b = some .lt := by
    cases a.order? b <;> simp
  rw [canonicalOrder, Ordering.then_eq_lt, Nat.compare_eq_lt, Nat.compare_eq_eq, hvalue, Below]

theorem canonicalOrder_swap (a b : Native) :
    b.canonicalOrder a = (a.canonicalOrder b).swap := by
  have hrank : compare b.kindRank a.kindRank = (compare a.kindRank b.kindRank).swap :=
    Std.OrientedOrd.eq_swap
  have hvalue : (b.order? a).getD .eq = ((a.order? b).getD .eq).swap := by
    rw [order?_swap a b]
    cases a.order? b <;> rfl
  rw [canonicalOrder, canonicalOrder, hrank, hvalue, Ordering.swap_then]

theorem canonicalOrder_eq_gt_iff : a.canonicalOrder b = .gt ↔ b.Below a := by
  rw [← canonicalOrder_eq_lt_iff, canonicalOrder_swap a b]
  cases a.canonicalOrder b <;> decide

def Counts (value : Native) : Prop := value ≠ .null ∧ value ≠ .undefined

theorem counts_iff {value : Native} : value.Counts ↔ AccumulatorOp.isVoid value = false := by
  cases value <;> simp [Counts, AccumulatorOp.isVoid]

end Native

namespace AccumulatorOp

open Native

/-- What an outcome of the canonical order says of two values, and that it chains. -/
structure Ranks (wanted : Ordering) (surpasses : Native → Native → Prop) : Prop where
  order_iff : ∀ a b, a.canonicalOrder b = wanted ↔ surpasses a b
  trans : ∀ {a b c}, surpasses a b → surpasses b c → surpasses a c
  irrefl : ∀ a, ¬surpasses a a

theorem ranks_lt : Ranks .lt Below :=
  ⟨fun _ _ => canonicalOrder_eq_lt_iff, Below.trans, not_below_self⟩

theorem ranks_gt : Ranks .gt fun a b => b.Below a :=
  ⟨fun _ _ => canonicalOrder_eq_gt_iff, fun hab hbc => hbc.trans hab, not_below_self⟩

variable {wanted : Ordering} {surpasses : Native → Native → Prop}

/-- The invariant of the pass: the best value so far is the first one or surpasses it, so that a
value that was passed over cannot surpass what comes out. -/
theorem exists_best? (h : Ranks wanted surpasses) (first : Native) (values : List Native) :
    ∃ result, best? wanted (some first) values = some result ∧ result ∈ first :: values ∧
      (result = first ∨ surpasses result first) ∧
        ∀ value ∈ first :: values, ¬surpasses value result := by
  induction values generalizing first with
  | nil =>
      refine ⟨first, rfl, List.mem_singleton_self first, .inl rfl, ?_⟩
      intro value hvalue
      rw [List.mem_singleton.mp hvalue]
      exact h.irrefl first
  | cons value rest ih =>
      rw [best?]
      by_cases hbetter : surpasses value first
      · obtain ⟨result, hresult, hmem, hreached, hbest⟩ := ih value
        have hfirst : surpasses result first := by
          rcases hreached with rfl | hreached
          · exact hbetter
          · exact h.trans hreached hbetter
        rw [if_pos (beq_iff_eq.mpr ((h.order_iff value first).mpr hbetter))]
        refine ⟨result, hresult, .tail _ hmem, .inr hfirst, ?_⟩
        intro other hother hsurpasses
        rcases List.mem_cons.mp hother with rfl | hother
        · exact h.irrefl _ (h.trans hsurpasses hfirst)
        · exact hbest other hother hsurpasses
      · obtain ⟨result, hresult, hmem, hreached, hbest⟩ := ih first
        have hkeep : ¬(value.canonicalOrder first == wanted) = true := by
          rw [beq_iff_eq, h.order_iff]
          exact hbetter
        have hover : ¬surpasses value result := by
          intro hsurpasses
          rcases hreached with rfl | hreached
          · exact hbetter hsurpasses
          · exact hbetter (h.trans hsurpasses hreached)
        rw [if_neg hkeep]
        refine ⟨result, hresult, ?_, hreached, ?_⟩
        · rcases List.mem_cons.mp hmem with rfl | hmem
          · exact List.mem_cons_self ..
          · exact .tail _ (.tail _ hmem)
        · simp only [List.forall_mem_cons] at hbest ⊢
          exact ⟨hbest.1, hover, hbest.2⟩

/-- One of the values that count, which no other of them surpasses. -/
structure IsExtremum (surpasses : Native → Native → Prop) (values : List Native)
    (result : Native) : Prop where
  mem : result ∈ values
  counts : result.Counts
  unsurpassed : ∀ value ∈ values, value.Counts → ¬surpasses value result

/-- Null where nothing counts, and an extremum otherwise. -/
theorem extremumOf_cases (h : Ranks wanted surpasses) (values : List Native) :
    (extremumOf wanted values = .null ∧ ∀ value ∈ values, ¬value.Counts) ∨
      IsExtremum surpasses values (extremumOf wanted values) := by
  unfold extremumOf
  cases hfilter : values.filter fun value => !isVoid value with
  | nil =>
      refine .inl ⟨rfl, fun value hvalue => ?_⟩
      rw [List.filter_eq_nil_iff] at hfilter
      simpa [counts_iff] using hfilter value hvalue
  | cons first rest =>
      obtain ⟨result, hresult, hmem, -, hbest⟩ := exists_best? h first rest
      have hkept (value : Native) : value ∈ first :: rest ↔ value ∈ values ∧ value.Counts := by
        rw [← hfilter, List.mem_filter, counts_iff, Bool.not_eq_true']
      rw [best?, hresult]
      obtain ⟨hmem, hcounts⟩ := (hkept result).mp hmem
      exact .inr ⟨hmem, hcounts, fun value hvalue hcounts =>
        hbest value ((hkept value).mpr ⟨hvalue, hcounts⟩)⟩

theorem extremumOf_eq_null_iff (h : Ranks wanted surpasses) (values : List Native) :
    extremumOf wanted values = .null ↔ ∀ value ∈ values, ¬value.Counts := by
  rcases extremumOf_cases h values with ⟨hnull, hnone⟩ | hextremum
  · exact ⟨fun _ => hnone, fun _ => hnull⟩
  · constructor
    · intro hnull
      exact absurd hnull hextremum.counts.1
    · intro hnone
      exact absurd hextremum.counts (hnone _ hextremum.mem)

/-- The least and the greatest of any values, whatever their kinds: null if and only if all of them
are null or undefined, and otherwise one of the others, below or above which none of the others
stands. -/
theorem apply_isExtremum (values : List Native) :
    (min.apply values = .null ↔ ∀ value ∈ values, value = .null ∨ value = .undefined) ∧
    (max.apply values = .null ↔ ∀ value ∈ values, value = .null ∨ value = .undefined) ∧
    ((∃ value ∈ values, value.Counts) →
      IsExtremum Below values (min.apply values) ∧
        IsExtremum (fun a b => b.Below a) values (max.apply values)) := by
  have hvoid : (∀ value ∈ values, value = .null ∨ value = .undefined) ↔
      ∀ value ∈ values, ¬value.Counts := by
    simp only [Counts, not_and_or, not_not]
  refine ⟨?_, ?_, ?_⟩
  · rw [hvoid]
    exact extremumOf_eq_null_iff ranks_lt values
  · rw [hvoid]
    exact extremumOf_eq_null_iff ranks_gt values
  · rintro ⟨value, hvalue, hcounts⟩
    have hsome : ¬∀ value ∈ values, ¬value.Counts := fun hnone => hnone value hvalue hcounts
    exact ⟨(extremumOf_cases ranks_lt values).resolve_left fun hnull => hsome hnull.2,
      (extremumOf_cases ranks_gt values).resolve_left fun hnull => hsome hnull.2⟩

def mixed : List Native :=
  [.null, .string "a", .int64 5, .double .nan, .int32 4, .undefined]

/-- The NaN neither ends the search nor hides the number behind it. -/
theorem apply_isExtremum_mixed :
    (∃ value ∈ mixed, value.Counts) ∧ min.apply mixed = .int32 4 ∧
      max.apply mixed = .string "a" ∧ IsExtremum Below mixed (min.apply mixed) := by
  have hcounts : ∃ value ∈ mixed, value.Counts := ⟨.int64 5, by simp [mixed], by simp [Counts]⟩
  exact ⟨hcounts, rfl, rfl, ((apply_isExtremum mixed).2.2 hcounts).1⟩

end AccumulatorOp

end StageThree
