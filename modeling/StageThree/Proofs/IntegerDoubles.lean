import Mathlib.Algebra.Group.Nat.Defs
import Mathlib.Tactic.ByContra
import StageThree.Double.Rounding

/-!
Integers as doubles. Below `2 ^ 53` an integer is a double exactly, so that different integers stay
different; from there on several may round to the same double, all of them at least `2 ^ 53`.
Rounding never turns the order of two integers around.
-/

namespace StageThree.Double

/-! ### Signs and magnitudes -/

theorem magnitude_ofMagnitude (negative : Bool) {m : Nat} (h : m < signBit) :
    (ofMagnitude negative m).magnitude = m := by
  cases negative <;> simp [ofMagnitude, magnitude, signBit] at * <;> omega

theorem isNegative_ofMagnitude (negative : Bool) {m : Nat} (h : m < signBit) :
    (ofMagnitude negative m).isNegative = negative := by
  cases negative <;> simp [ofMagnitude, isNegative, signBit] at * <;> omega

theorem infinityMagnitude_lt : infinityMagnitude < signBit := by decide

theorem lt_signBit_of_min (m : Nat) : min m infinityMagnitude < signBit :=
  Nat.lt_of_le_of_lt (Nat.min_le_right ..) infinityMagnitude_lt

theorem magnitude_ofNat_le (n : Nat) : (ofNat n).magnitude ≤ infinityMagnitude := by
  unfold ofNat ofRatio
  dsimp only
  split
  · rw [magnitude_ofMagnitude _ (by decide)]
    exact Nat.zero_le _
  · rw [magnitude_ofMagnitude _ (lt_signBit_of_min _)]
    exact Nat.min_le_right ..

theorem magnitude_ofNat_lt_signBit (n : Nat) : (ofNat n).magnitude < signBit :=
  Nat.lt_of_le_of_lt (magnitude_ofNat_le n) infinityMagnitude_lt

/-- An integer has the sign bit of its sign, beside the magnitude of its absolute value. -/
theorem ofInt_eq (n : Int) : ofInt n = ofMagnitude (n < 0) (ofNat n.natAbs).magnitude := by
  unfold ofNat ofInt ofRatio
  dsimp only
  split
  · rw [magnitude_ofMagnitude _ (by decide)]
  · rw [magnitude_ofMagnitude _ (lt_signBit_of_min _)]

theorem magnitude_ofInt (n : Int) : (ofInt n).magnitude = (ofNat n.natAbs).magnitude := by
  rw [ofInt_eq, magnitude_ofMagnitude _ (magnitude_ofNat_lt_signBit _)]

theorem isNegative_ofInt (n : Int) : (ofInt n).isNegative = decide (n < 0) := by
  rw [ofInt_eq, isNegative_ofMagnitude _ (magnitude_ofNat_lt_signBit _)]

theorem isNaN_ofInt (n : Int) : (ofInt n).isNaN = false := by
  simpa [isNaN, magnitude_ofInt] using magnitude_ofNat_le n.natAbs

/-! ### The magnitude of an integer -/

theorem two_pow_log2_mul {n : Nat} (hlog : n.log2 ≤ 52) :
    2 ^ n.log2 * 2 ^ (52 - n.log2) = leadingBit := by
  rw [← Nat.pow_add, show n.log2 + (52 - n.log2) = 52 by omega]

/-- The leading digit of an integer tells its exponent. -/
theorem ratioExponent_one {n : Nat} (hn : n ≠ 0) : ratioExponent n 1 = (n.log2 : Int) - 52 := by
  have hlow : 2 ^ n.log2 ≤ n := Nat.log2_self_le hn
  have hestimate : (n.log2 : Int) - Nat.log2 1 - 52 = (n.log2 : Int) - 52 := by
    rw [show Nat.log2 1 = 0 from rfl]
    omega
  unfold ratioExponent
  dsimp only
  rw [hestimate]
  -- the estimate is exact, since a power of two with this exponent divides by one
  have hexact : ¬(if 0 ≤ (n.log2 : Int) - 52 then
      n < 1 * Nat.pow 2 (52 + ((n.log2 : Int) - 52).toNat)
      else n * Nat.pow 2 (-((n.log2 : Int) - 52)).toNat < 1 * leadingBit) := by
    split
    · next hlarge =>
      rw [show 52 + ((n.log2 : Int) - 52).toNat = n.log2 by omega, Nat.pow_eq]
      omega
    · next hsmall =>
      have hscaled := Nat.mul_le_mul_right (2 ^ (52 - n.log2)) hlow
      rw [two_pow_log2_mul (by omega)] at hscaled
      rw [show (-((n.log2 : Int) - 52)).toNat = 52 - n.log2 by omega, Nat.pow_eq]
      omega
  rw [if_neg hexact]
  omega

theorem magnitude_ofNat {n : Nat} (hn : n ≠ 0) :
    (ofNat n).magnitude =
      min ((n.log2 + 1022) * leadingBit + scaledMantissa n 1 ((n.log2 : Int) - 52))
        infinityMagnitude := by
  have hexponent : ((n.log2 : Int) - 52 + 1074).toNat = n.log2 + 1022 := by omega
  unfold ofNat ofRatio
  dsimp only
  rw [if_neg hn, magnitude_ofMagnitude _ (lt_signBit_of_min _), ratioExponent_one hn, hexponent]

theorem roundDiv_one (n : Nat) : roundDiv n 1 = n := by
  simp [roundDiv, Nat.mod_one]

theorem scaledMantissa_of_lt {n : Nat} (h : n.log2 ≤ 52) :
    scaledMantissa n 1 ((n.log2 : Int) - 52) = n * 2 ^ (52 - n.log2) := by
  unfold scaledMantissa
  split
  · next hexact =>
    rw [show n.log2 = 52 by omega]
    simpa using roundDiv_one n
  · next hshift =>
    rw [show (-((n.log2 : Int) - 52)).toNat = 52 - n.log2 by omega, roundDiv_one, Nat.pow_eq]

/-- Shifted to 53 digits, an integer lies between two powers of two. -/
theorem shifted_bounds {n : Nat} (hn : n ≠ 0) (hlog : n.log2 ≤ 52) :
    leadingBit ≤ n * 2 ^ (52 - n.log2) ∧ n * 2 ^ (52 - n.log2) < 2 * leadingBit := by
  constructor
  · calc leadingBit
        = 2 ^ n.log2 * 2 ^ (52 - n.log2) := (two_pow_log2_mul hlog).symm
      _ ≤ n * 2 ^ (52 - n.log2) := Nat.mul_le_mul_right _ (Nat.log2_self_le hn)
  · calc n * 2 ^ (52 - n.log2)
        < 2 ^ (n.log2 + 1) * 2 ^ (52 - n.log2) :=
          Nat.mul_lt_mul_of_pos_right Nat.lt_log2_self (Nat.two_pow_pos _)
      _ = 2 * leadingBit := by
          rw [Nat.pow_succ, Nat.mul_right_comm, two_pow_log2_mul hlog, Nat.mul_comm]

theorem magnitude_ofNat_of_lt {n : Nat} (hn : n ≠ 0) (h : n < 2 ^ 53) :
    (ofNat n).magnitude = (n.log2 + 1022) * leadingBit + n * 2 ^ (52 - n.log2) := by
  have hlog : n.log2 < 53 := (Nat.log2_lt hn).mpr h
  have hbounds := shifted_bounds hn (by omega)
  rw [magnitude_ofNat hn, scaledMantissa_of_lt (by omega), infinityMagnitude]
  unfold leadingBit at *
  omega

theorem div_le_roundDiv (num den : Nat) : num / den ≤ roundDiv num den := by
  unfold roundDiv
  dsimp only
  split
  · exact Nat.le_refl _
  · split <;> omega

theorem roundDiv_le (num den : Nat) : roundDiv num den ≤ num / den + 1 := by
  unfold roundDiv
  dsimp only
  split
  · omega
  · split <;> omega

/-- The digits of a large integer, cut to 53 of them. -/
theorem scaledMantissa_of_le {n : Nat} (h : 52 ≤ n.log2) :
    scaledMantissa n 1 ((n.log2 : Int) - 52) = roundDiv n (2 ^ (n.log2 - 52)) := by
  rw [scaledMantissa, if_pos (by omega), show ((n.log2 : Int) - 52).toNat = n.log2 - 52 by omega,
    Nat.one_mul, Nat.pow_eq]

/-- Brought to 53 digits, an integer lies between two powers of two; rounding may reach the upper
one. -/
theorem scaledMantissa_bounds {n : Nat} (hn : n ≠ 0) :
    leadingBit ≤ scaledMantissa n 1 ((n.log2 : Int) - 52) ∧
      scaledMantissa n 1 ((n.log2 : Int) - 52) ≤ 2 * leadingBit := by
  rcases Nat.le_total n.log2 52 with hsmall | hlarge
  · have hbounds := shifted_bounds hn hsmall
    rw [scaledMantissa_of_lt hsmall]
    omega
  · rw [scaledMantissa_of_le hlarge]
    have hpow : leadingBit * 2 ^ (n.log2 - 52) = 2 ^ n.log2 := by
      rw [show leadingBit = 2 ^ 52 by rfl, ← Nat.pow_add]
      congr 1
      omega
    have hlower : leadingBit ≤ n / 2 ^ (n.log2 - 52) := by
      rw [Nat.le_div_iff_mul_le (Nat.two_pow_pos _), hpow]
      exact Nat.log2_self_le hn
    have hupper : n / 2 ^ (n.log2 - 52) < 2 * leadingBit := by
      rw [Nat.div_lt_iff_lt_mul (Nat.two_pow_pos _), Nat.mul_assoc, hpow, Nat.mul_comm]
      exact Nat.lt_log2_self
    have hround := div_le_roundDiv n (2 ^ (n.log2 - 52))
    have hnext := roundDiv_le n (2 ^ (n.log2 - 52))
    omega

theorem le_magnitude_ofNat {n : Nat} (h : 2 ^ 53 ≤ n) :
    1076 * leadingBit ≤ (ofNat n).magnitude := by
  have hn : n ≠ 0 := by omega
  have hlog : 53 ≤ n.log2 := (Nat.le_log2 hn).mpr h
  have hmantissa := (scaledMantissa_bounds hn).1
  rw [magnitude_ofNat hn, infinityMagnitude]
  unfold leadingBit at *
  omega

theorem magnitude_ofNat_two_pow : (ofNat (2 ^ 53)).magnitude = 1076 * leadingBit := by
  decide

/-- Below `2 ^ 53` the magnitude grows with the integer. -/
theorem magnitude_ofNat_lt {m n : Nat} (hlt : m < n) (h : n < 2 ^ 53) :
    (ofNat m).magnitude < (ofNat n).magnitude := by
  have hn : n ≠ 0 := by omega
  rw [magnitude_ofNat_of_lt hn h]
  rcases Nat.eq_zero_or_pos m with rfl | hm
  · rw [show (ofNat 0).magnitude = 0 by rfl]
    unfold leadingBit
    omega
  have hm' : m ≠ 0 := by omega
  rw [magnitude_ofNat_of_lt hm' (by omega)]
  have hlog : n.log2 < 53 := (Nat.log2_lt hn).mpr h
  rcases Nat.lt_or_ge m.log2 n.log2 with hless | hge
  · have hm_bounds := shifted_bounds hm' (by omega)
    have hn_bounds := shifted_bounds hn (by omega)
    unfold leadingBit at *
    omega
  · have hlow : 2 ^ m.log2 ≤ m := Nat.log2_self_le hm'
    have hsame : m.log2 = n.log2 :=
      Nat.le_antisymm ((Nat.le_log2 hn).mpr (by omega)) hge
    rw [hsame]
    exact Nat.add_lt_add_left (Nat.mul_lt_mul_of_pos_right hlt (Nat.two_pow_pos _)) _

theorem magnitude_ofNat_inj {m n : Nat} (hm : m < 2 ^ 53) (hn : n < 2 ^ 53)
    (h : (ofNat m).magnitude = (ofNat n).magnitude) : m = n := by
  rcases Nat.lt_trichotomy m n with hlt | heq | hgt
  · exact absurd h (Nat.ne_of_lt (magnitude_ofNat_lt hlt hn))
  · exact heq
  · exact absurd h (Nat.ne_of_gt (magnitude_ofNat_lt hgt hm))

theorem natAbs_lt_of_magnitude {n : Int}
    (h : (ofInt n).magnitude < (ofNat (2 ^ 53)).magnitude) : n.natAbs < 2 ^ 53 := by
  by_contra hlarge
  have hle := le_magnitude_ofNat (Nat.le_of_not_lt hlarge)
  rw [magnitude_ofInt, magnitude_ofNat_two_pow] at h
  omega

theorem natAbs_rank (x : Double) : x.rank.natAbs = x.magnitude := by
  unfold rank
  split <;> simp

/-- Two integers in the place of one double are the same, unless it is as large as `2 ^ 53`. -/
theorem eq_of_rank_ofInt {m n : Int} (h : (ofInt m).rank = (ofInt n).rank)
    (hsmall : (ofInt m).magnitude < (ofNat (2 ^ 53)).magnitude) : m = n := by
  have hmagnitude : (ofInt m).magnitude = (ofInt n).magnitude := by
    rw [← natAbs_rank, h, natAbs_rank]
  have hm := natAbs_lt_of_magnitude hsmall
  have hn := natAbs_lt_of_magnitude (hmagnitude ▸ hsmall)
  have habs : m.natAbs = n.natAbs := by
    rw [magnitude_ofInt, magnitude_ofInt] at hmagnitude
    exact magnitude_ofNat_inj hm hn hmagnitude
  by_contra hne
  -- they would be opposite, and a rank that is its own opposite is that of zero
  have hpos : (ofNat 0).magnitude < (ofNat n.natAbs).magnitude :=
    magnitude_ofNat_lt (by omega) hn
  simp only [rank, isNegative_ofInt, magnitude_ofInt, habs, decide_eq_true_eq] at h
  split at h <;> split at h <;> omega

/-! ### Rounding keeps the order -/

theorem roundDiv_mono {m n : Nat} (h : m ≤ n) (den : Nat) : roundDiv m den ≤ roundDiv n den := by
  rcases Nat.lt_or_eq_of_le (Nat.div_le_div_right h : m / den ≤ n / den) with hless | hsame
  · calc roundDiv m den
        ≤ m / den + 1 := roundDiv_le m den
      _ ≤ n / den := hless
      _ ≤ roundDiv n den := div_le_roundDiv n den
  · -- with one quotient, the greater integer has no smaller remainder
    have hrest : m % den ≤ n % den := by
      have hm := Nat.div_add_mod m den
      have hn := Nat.div_add_mod n den
      rw [hsame] at hm
      omega
    unfold roundDiv
    dsimp only
    rw [hsame]
    repeat' split
    all_goals omega

/-- A greater integer has no smaller magnitude. -/
theorem magnitude_ofNat_mono {m n : Nat} (h : m ≤ n) :
    (ofNat m).magnitude ≤ (ofNat n).magnitude := by
  rcases Nat.eq_zero_or_pos m with rfl | hpos
  · exact Nat.zero_le _
  have hm : m ≠ 0 := by omega
  have hn : n ≠ 0 := by omega
  have hlog : m.log2 ≤ n.log2 := (Nat.le_log2 hn).mpr (Nat.le_trans (Nat.log2_self_le hm) h)
  rw [magnitude_ofNat hm, magnitude_ofNat hn]
  rcases Nat.lt_or_eq_of_le hlog with hless | hsame
  · -- rounding up ends at the next power of two at most
    have hm_bounds := scaledMantissa_bounds hm
    have hn_bounds := scaledMantissa_bounds hn
    unfold leadingBit at *
    omega
  · have hscaled : scaledMantissa m 1 ((m.log2 : Int) - 52) ≤
        scaledMantissa n 1 ((n.log2 : Int) - 52) := by
      rcases Nat.le_total n.log2 52 with hsmall | hlarge
      · rw [scaledMantissa_of_lt (by omega), scaledMantissa_of_lt hsmall, hsame]
        exact Nat.mul_le_mul_right _ h
      · rw [scaledMantissa_of_le (by omega), scaledMantissa_of_le hlarge, hsame]
        exact roundDiv_mono h _
    rw [hsame] at hscaled ⊢
    omega

theorem rank_ofInt (n : Int) : (ofInt n).rank =
    if n < 0 then -((ofNat n.natAbs).magnitude : Int) else (ofNat n.natAbs).magnitude := by
  simp only [rank, isNegative_ofInt, magnitude_ofInt, decide_eq_true_eq]

/-- A greater integer has no lower place among the doubles. -/
theorem rank_ofInt_mono {m n : Int} (h : m ≤ n) : (ofInt m).rank ≤ (ofInt n).rank := by
  rw [rank_ofInt, rank_ofInt]
  split <;> split
  · have hle := magnitude_ofNat_mono (show n.natAbs ≤ m.natAbs by omega)
    omega
  · omega
  · omega
  · have hle := magnitude_ofNat_mono (show m.natAbs ≤ n.natAbs by omega)
    omega

end StageThree.Double
