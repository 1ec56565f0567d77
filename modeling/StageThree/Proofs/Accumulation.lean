import Mathlib
import StageThree.Proofs.Extrema

/-!
What the accumulators make of the values of a group. Only some of the values count: numbers for
the sum and the mean, and whatever is not null for the least and the greatest. A mean is the sum of
its numbers, from the first to the last, over how many they are, although the program begins the
sum one step earlier, with minus zero.
-/

namespace StageThree

namespace Double

theorem toFloat_ofFloat (f : Float) : (ofFloat f).toFloat = f := Float.ofBits_toBits f

/-- Minus zero adds nothing, not even a sign. -/
theorem toFloat_minusZero_add (x : Double) :
    ((ofMagnitude true 0).add x).toFloat = x.toFloat := by
  have hzero : (ofMagnitude true 0).toFloat.toModel.unpack = .zero .negative := rfl
  have hadd (y : Float.Model.UnpackedFloat) :
      Float.Model.UnpackedFloat.add .binary64 (.zero .negative) y = y := by
    cases y with
    | zero sign => cases sign <;> rfl
    | _ => rfl
  rw [add, toFloat_ofFloat]
  generalize x.toFloat = f
  calc (ofMagnitude true 0).toFloat + f
    _ = .ofModel (.pack (.add .binary64 (ofMagnitude true 0).toFloat.toModel.unpack
          f.toModel.unpack)) := rfl
    _ = .ofModel (.pack f.toModel.unpack) := by rw [hzero, hadd]
    _ = f := Float.ofBits_toBits f

-- the bits of a NaN may change when minus zero is added, so that only what is
-- computed from the sum is the same
theorem minusZero_add_add (x y : Double) : ((ofMagnitude true 0).add x).add y = x.add y := by
  rw [add, toFloat_minusZero_add, ← add]

theorem minusZero_add_div (x y : Double) : ((ofMagnitude true 0).add x).div y = x.div y := by
  rw [div, toFloat_minusZero_add, ← div]

end Double

namespace AccumulatorOp

open Native

/-- The values that count for an accumulator: numbers for the sum and the mean, and whatever is
not null for the extrema. -/
def takes : AccumulatorOp → Native → Bool
  | sum, value | avg, value => value.toDouble?.isSome
  | min, value | max, value => !isVoid value

theorem add_of_not_number {value : Native} (h : value.toDouble? = none) (total : Total) :
    total.add value = total := by
  cases value with
  | int32 | int64 | double => cases h
  | _ => rfl

theorem sumOf_filter_takes (values : List Native) :
    sumOf (values.filter sum.takes) = sumOf values := by
  suffices ∀ total : Total,
      (values.filter sum.takes).foldl Total.add total = values.foldl Total.add total from
    congrArg Total.toNative (this Total.zero)
  induction values with
  | nil => exact fun _ => rfl
  | cons value rest ih =>
      intro total
      cases hvalue : value.toDouble? with
      | none =>
          have htakes : sum.takes value = false := by simp [takes, hvalue]
          rw [List.filter_cons_of_neg (by simp [htakes]), List.foldl_cons,
            add_of_not_number hvalue, ih]
      | some x =>
          have htakes : sum.takes value = true := by simp [takes, hvalue]
          rw [List.filter_cons_of_pos htakes, List.foldl_cons, List.foldl_cons, ih]

theorem meanOf_filter_takes (values : List Native) :
    meanOf (values.filter avg.takes) = meanOf values := by
  have hnumbers : (values.filter avg.takes).filterMap Native.toDouble? =
      values.filterMap Native.toDouble? := by
    rw [List.filterMap_filter]
    refine List.filterMap_congr fun value _ => ?_
    cases hvalue : value.toDouble? <;> simp [takes, hvalue]
  rw [meanOf, meanOf, hnumbers]

theorem extremumOf_filter_takes (wanted : Ordering) (values : List Native) :
    extremumOf wanted (values.filter min.takes) = extremumOf wanted values := by
  simp only [extremumOf, List.filter_filter, takes, Bool.and_self]

/-- Nothing else counts. -/
theorem apply_filter_takes (op : AccumulatorOp) (values : List Native) :
    op.apply (values.filter op.takes) = op.apply values := by
  cases op with
  | sum => exact sumOf_filter_takes values
  | avg => exact meanOf_filter_takes values
  | min => exact extremumOf_filter_takes .lt values
  | max => exact extremumOf_filter_takes .gt values

/-- A mean is the sum of the numbers, in their order, over how many they are. -/
theorem meanOf_of_numbers {values : List Native} {first : Double} {rest : List Double}
    (h : values.filterMap toDouble? = first :: rest) :
    meanOf values =
      .double ((rest.foldl Double.add first).div (Double.ofNat (rest.length + 1))) := by
  rw [meanOf, h]
  cases rest with
  | nil => exact congrArg Native.double (Double.minusZero_add_div first _)
  | cons second rest =>
      have hsum : (first :: second :: rest).foldl Double.add (Double.ofMagnitude true 0) =
          (second :: rest).foldl Double.add first := by
        rw [List.foldl_cons, List.foldl_cons, List.foldl_cons, Double.minusZero_add_add]
      exact congrArg
        (fun total => Native.double (total.div (Double.ofNat (rest.length + 1 + 1)))) hsum

/-- What an accumulator is to make of values: a running total of the numbers, their mean, or one of
the values that count below or above which none of the others stands. Where nothing counts there is
no mean and no extremum. -/
def Makes : AccumulatorOp → List Native → Native → Prop
  | sum, values, result =>
    result = ((values.filter fun value => value.toDouble?.isSome).foldl Total.add .zero).toNative
  | avg, values, result =>
    ((∀ value ∈ values, value.toDouble? = none) ∧ result = .null) ∨
      ∃ first rest, values.filterMap toDouble? = first :: rest ∧
        result = .double ((rest.foldl Double.add first).div (Double.ofNat (rest.length + 1)))
  | min, values, result =>
    ((∀ value ∈ values, ¬value.Counts) ∧ result = .null) ∨ IsExtremum Below values result
  | max, values, result =>
    ((∀ value ∈ values, ¬value.Counts) ∧ result = .null) ∨
      IsExtremum (fun a b => b.Below a) values result

theorem makes_apply (op : AccumulatorOp) (values : List Native) :
    op.Makes values (op.apply values) := by
  cases op with
  | sum => exact (sumOf_filter_takes values).symm
  | avg =>
      cases h : values.filterMap toDouble? with
      | nil =>
          refine .inl ⟨List.filterMap_eq_nil_iff.mp h, ?_⟩
          rw [apply, meanOf, h]
      | cons first rest => exact .inr ⟨first, rest, h, meanOf_of_numbers h⟩
  | min => exact (extremumOf_cases ranks_lt values).imp And.symm id
  | max => exact (extremumOf_cases ranks_gt values).imp And.symm id

end AccumulatorOp

end StageThree
