import Mathlib.Data.List.Induction
import Mathlib.Data.List.Infix
import StageThree.Proofs.Reductions

/-!
When a sum of integers is exact. The running total is an integer until it needs more than 64 bits;
from then on the sum is a double, even if later inputs bring the total back. So a sum is exact if
and only if no total on the way is out of range, and it is so in every order of the inputs if and
only if the positive inputs and the negative inputs, each summed alone, are in range.
-/

namespace StageThree

namespace AccumulatorOp

variable {values others front : List Native} {value : Native} {total : Total}

/-! ### Totals -/

def totalOf : List Native → Int
  | [] => 0
  | value :: rest => value.toInt?.getD 0 + totalOf rest

/-- Whether every running total is in range. -/
def StaysInRange (values : List Native) : Prop := ∀ front, front <+: values → Fits64 (totalOf front)

/-- The total itself, in 32 bits if it fits and no input is wider. -/
inductive IsTotal (values : List Native) : Native → Prop
  | narrow (n : Int32) (hnarrow : ∀ m, Native.int64 m ∉ values)
      (htotal : n.toInt = totalOf values) : IsTotal values (.int32 n)
  | wide (n : Int64) (hwide : (∃ m, Native.int64 m ∈ values) ∨ ¬Fits32 (totalOf values))
      (htotal : n.toInt = totalOf values) : IsTotal values (.int64 n)

theorem totalOf_append (values others : List Native) :
    totalOf (values ++ others) = totalOf values + totalOf others := by
  induction values with
  | nil => exact (Int.zero_add _).symm
  | cons value rest ih =>
      rw [List.cons_append, totalOf, totalOf, ih]
      omega

theorem totalOf_concat (values : List Native) (value : Native) :
    totalOf (values ++ [value]) = totalOf values + value.toInt?.getD 0 := by
  rw [totalOf_append, totalOf, totalOf]
  omega

theorem totalOf_perm (h : others.Perm values) : totalOf others = totalOf values := by
  induction h with
  | nil => rfl
  | cons value _ ih => rw [totalOf, totalOf, ih]
  | swap value other rest =>
      simp only [totalOf]
      omega
  | trans _ _ ih ih' => exact ih.trans ih'

theorem staysInRange_concat : StaysInRange (values ++ [value]) ↔
    StaysInRange values ∧ Fits64 (totalOf (values ++ [value])) := by
  simp only [StaysInRange, List.prefix_concat_iff, or_imp, forall_and, forall_eq]
  exact and_comm

theorem StaysInRange.fits (h : StaysInRange values) : Fits64 (totalOf values) :=
  h values (List.prefix_refl values)

theorem staysInRange_concat_of_not_number (hvalue : value.toInt? = none) :
    StaysInRange (values ++ [value]) ↔ StaysInRange values := by
  have htotal : totalOf (values ++ [value]) = totalOf values := by
    rw [totalOf_concat, hvalue]
    exact Int.add_zero _
  rw [staysInRange_concat, htotal]
  exact ⟨And.left, fun hrange => ⟨hrange, hrange.fits⟩⟩

/-! ### The running sum -/

/-- What a running sum knows after inputs among which there is no double. -/
structure Tracks (values : List Native) (total : Total) : Prop where
  whole : total.fractional = false
  wide_iff : total.wide = true ↔ ∃ m, Native.int64 m ∈ values
  exact : StaysInRange values → total.sum? = some (totalOf values)
  lost : ¬StaysInRange values → total.sum? = none

theorem tracks_zero : Tracks [] Total.zero where
  whole := rfl
  wide_iff := by simp [Total.zero]
  exact _ := rfl
  lost h := by
    refine absurd (fun front hfront => ?_) h
    rw [List.prefix_nil.mp hfront]
    decide

theorem sum?_addInt (h : Tracks values total) {n : Int} (hvalue : value.toInt? = some n) :
    (StaysInRange (values ++ [value]) →
      (total.addInt n).sum? = some (totalOf (values ++ [value]))) ∧
    (¬StaysInRange (values ++ [value]) → (total.addInt n).sum? = none) := by
  have htotal : totalOf (values ++ [value]) = totalOf values + n := by
    rw [totalOf_concat, hvalue]
    rfl
  rw [staysInRange_concat, Total.addInt]
  by_cases hrange : StaysInRange values
  · rw [h.exact hrange, Option.bind_some, ← htotal, Total.fit?]
    exact ⟨fun hfits => if_pos hfits.2, fun hout => if_neg fun hfits => hout ⟨hrange, hfits⟩⟩
  · rw [h.lost hrange]
    exact ⟨fun hfits => absurd hfits.1 hrange, fun _ => rfl⟩

theorem Tracks.skip (h : Tracks values total) (hvalue : value.toInt? = none) :
    Tracks (values ++ [value]) total where
  whole := h.whole
  wide_iff := by
    rw [h.wide_iff]
    refine exists_congr fun m => ?_
    rw [List.mem_append, List.mem_singleton, or_iff_left]
    rintro rfl
    cases hvalue
  exact hrange := by
    rw [staysInRange_concat_of_not_number hvalue] at hrange
    rw [h.exact hrange, totalOf_concat, hvalue]
    exact congrArg some (Int.add_zero _).symm
  lost hrange := by
    rw [staysInRange_concat_of_not_number hvalue] at hrange
    exact h.lost hrange

theorem tracks_add (h : Tracks values total) (hvalue : ∀ x, value ≠ .double x) :
    Tracks (values ++ [value]) (total.add value) := by
  cases value with
  | double x => exact absurd rfl (hvalue x)
  | int32 n =>
      have hint : (Native.int32 n).toInt? = some n.toInt := rfl
      obtain ⟨hexact, hlost⟩ := sum?_addInt h hint
      have hwide : (total.add (.int32 n)).wide = total.wide := rfl
      exact ⟨h.whole, by simpa [hwide] using h.wide_iff, hexact, hlost⟩
  | int64 n =>
      have hint : (Native.int64 n).toInt? = some n.toInt := rfl
      obtain ⟨hexact, hlost⟩ := sum?_addInt h hint
      refine ⟨h.whole, ?_, hexact, hlost⟩
      exact ⟨fun _ => ⟨n, List.mem_append_right _ (List.mem_singleton_self _)⟩, fun _ => rfl⟩
  | _ =>
      rw [add_of_not_number rfl]
      exact h.skip rfl

theorem tracks_foldl (hvalues : ∀ value ∈ values, ∀ x, value ≠ .double x) :
    Tracks values (values.foldl Total.add Total.zero) := by
  induction values using List.reverseRecOn with
  | nil => exact tracks_zero
  | append_singleton values value ih =>
      rw [List.foldl_append]
      refine tracks_add (ih fun other hother => ?_) ?_
      · exact hvalues other (List.mem_append_left _ hother)
      · exact hvalues value (List.mem_append_right _ (List.mem_singleton_self _))

/-! ### The sum -/

theorem isTotal_toNative (h : Tracks values total) (hrange : StaysInRange values) :
    IsTotal values total.toNative := by
  obtain ⟨hlower, hupper⟩ := hrange.fits
  rw [Total.toNative, h.exact hrange]
  dsimp only
  rw [h.whole, if_neg Bool.false_ne_true]
  split
  · next hnarrow =>
    simp only [Bool.and_eq_true, Bool.not_eq_true', decide_eq_true_eq] at hnarrow
    obtain ⟨hwide, hsmall, hlarge⟩ := hnarrow
    refine .narrow _ (fun m hm => ?_) (Int32.toInt_ofInt_of_le (by omega) (by omega))
    rw [h.wide_iff.mpr ⟨m, hm⟩] at hwide
    cases hwide
  · next hnarrow =>
    simp only [Bool.and_eq_true, Bool.not_eq_true', decide_eq_true_eq, not_and_or,
      Bool.not_eq_false, h.wide_iff] at hnarrow
    exact .wide _ hnarrow (Int64.toInt_ofInt_of_le (by omega) (by omega))

theorem exists_double_toNative (h : Tracks values total) (hrange : ¬StaysInRange values) :
    ∃ x, total.toNative = .double x := by
  rw [Total.toNative, h.lost hrange]
  exact ⟨_, rfl⟩

theorem not_isTotal_double (x : Double) : ¬IsTotal values (.double x) := nofun

theorem isTotal_sum_iff (hvalues : ∀ value ∈ values, ∀ x, value ≠ .double x) :
    IsTotal values (sum.apply values) ↔ StaysInRange values := by
  refine ⟨fun htotal => ?_, isTotal_toNative (tracks_foldl hvalues)⟩
  by_contra hrange
  obtain ⟨x, hx⟩ := exists_double_toNative (tracks_foldl hvalues) hrange
  rw [apply, sumOf, hx] at htotal
  exact not_isTotal_double x htotal

theorem exists_double_sum_iff (hvalues : ∀ value ∈ values, ∀ x, value ≠ .double x) :
    (∃ x, sum.apply values = .double x) ↔ ¬StaysInRange values := by
  refine ⟨fun ⟨x, hx⟩ hrange => ?_, exists_double_toNative (tracks_foldl hvalues)⟩
  rw [← isTotal_sum_iff hvalues, hx] at hrange
  exact not_isTotal_double x hrange

/-! ### Every order of the inputs -/

def gains (values : List Native) : List Native :=
  values.filter fun value => value.toInt?.any (0 < ·)

def losses (values : List Native) : List Native :=
  values.filter fun value => value.toInt?.any (· < 0)

/-- A total lies between what is lost and what is gained. -/
theorem totalOf_bounds (values : List Native) :
    totalOf (losses values) ≤ 0 ∧ 0 ≤ totalOf (gains values) ∧
      totalOf (losses values) ≤ totalOf values ∧ totalOf values ≤ totalOf (gains values) := by
  induction values with
  | nil => decide
  | cons value rest ih =>
      simp only [gains, losses, List.filter_cons] at ih ⊢
      cases hvalue : value.toInt? with
      | none => simpa [totalOf, hvalue] using ih
      | some n =>
          by_cases hpos : 0 < n <;> by_cases hneg : n < 0 <;>
            simp [totalOf, hvalue, hpos, hneg] <;> omega

/-- No order of the inputs leaves the range if and only if neither the gains nor the losses do. The
worst orders are those that begin with all gains or with all losses. -/
theorem staysInRange_perm_iff (values : List Native) :
    (∀ others, others.Perm values → StaysInRange others) ↔
      Fits64 (totalOf (gains values)) ∧ Fits64 (totalOf (losses values)) := by
  constructor
  · intro h
    have hfront (p : Native → Bool) : Fits64 (totalOf (values.filter p)) :=
      h _ (List.filter_append_perm p values) _ (List.prefix_append ..)
    exact ⟨hfront _, hfront _⟩
  · rintro ⟨⟨-, hgains⟩, ⟨hlosses, -⟩⟩ others hperm front ⟨back, rfl⟩
    have hparts (p : Native → Bool) :
        totalOf (front.filter p) + totalOf (back.filter p) = totalOf (values.filter p) := by
      rw [← totalOf_append, ← List.filter_append]
      exact totalOf_perm (hperm.filter p)
    have hgained : totalOf (gains front) + totalOf (gains back) = totalOf (gains values) :=
      hparts _
    have hlost : totalOf (losses front) + totalOf (losses back) = totalOf (losses values) :=
      hparts _
    have hfront := totalOf_bounds front
    have hback := totalOf_bounds back
    exact ⟨by omega, by omega⟩

theorem IsTotal.of_perm {result : Native} (hperm : others.Perm values)
    (h : IsTotal others result) : IsTotal values result := by
  cases h with
  | narrow n hnarrow htotal =>
      exact .narrow n (fun m hm => hnarrow m (hperm.mem_iff.mpr hm))
        (htotal.trans (totalOf_perm hperm))
  | wide n hwide htotal =>
      refine .wide n ?_ (htotal.trans (totalOf_perm hperm))
      rw [← totalOf_perm hperm]
      exact hwide.imp_left fun ⟨m, hm⟩ => ⟨m, hperm.mem_iff.mp hm⟩

/-- A sum without a double among its inputs is exact if no running total needs more than 64 bits,
and a double otherwise. It is exact in every order of the inputs if and only if what is gained and
what is lost, each by itself, are in range. -/
theorem sum_exact_iff (hvalues : ∀ value ∈ values, ∀ x, value ≠ .double x) :
    (IsTotal values (sum.apply values) ↔ StaysInRange values) ∧
    ((∃ x, sum.apply values = .double x) ↔ ¬StaysInRange values) ∧
    ((∀ others, others.Perm values → IsTotal values (sum.apply others)) ↔
      Fits64 (totalOf (gains values)) ∧ Fits64 (totalOf (losses values))) := by
  refine ⟨isTotal_sum_iff hvalues, exists_double_sum_iff hvalues, ?_⟩
  rw [← staysInRange_perm_iff]
  refine forall₂_congr fun others hperm => ?_
  have hothers := isTotal_sum_iff fun value hvalue => hvalues value (hperm.mem_iff.mp hvalue)
  rw [← hothers]
  exact ⟨.of_perm hperm.symm, .of_perm hperm⟩

/-- The largest total in range, reached from above. -/
def overshooting : List Native := [.int64 0x7FFFFFFFFFFFFFFF, .int32 1, .int32 (-1)]

/-- From the other side the same inputs have an exact sum, but not in every order. -/
theorem sum_exact_iff_overshooting :
    IsTotal overshooting.reverse (sum.apply overshooting.reverse) ∧
      ¬∀ others, others.Perm overshooting.reverse →
        IsTotal overshooting.reverse (sum.apply others) := by
  have hvalues : ∀ value ∈ overshooting.reverse, ∀ x, value ≠ .double x := by
    simp [overshooting]
  have hfronts : ∀ front ∈ overshooting.reverse.inits, Fits64 (totalOf front) := by decide
  obtain ⟨hexact, -, horders⟩ := sum_exact_iff hvalues
  constructor
  · exact hexact.mpr fun front hfront => hfronts front ((List.mem_inits ..).mpr hfront)
  · intro hall
    exact absurd (horders.mp hall).1 (by decide)

/-- The total of integers is in range, and their sum is a double. -/
theorem not_exact_of_overshooting :
    (∀ value ∈ overshooting, ∀ x, value ≠ .double x) ∧ Fits64 (totalOf overshooting) ∧
      ∃ x, sum.apply overshooting = .double x :=
  ⟨by simp [overshooting], by decide, _, rfl⟩

end AccumulatorOp

end StageThree
