import StageThree.Proofs.Equality
import StageThree.Proofs.IntegerDoubles

/-!
How stored values compare. Two integers compare exactly and any other two numbers as doubles.
Rounding keeps the order of integers, so that being less is transitive through both ways of
comparing; being equal is not.
-/

namespace StageThree

namespace Double

variable {x y z : Double}

theorem order?_eq_eq_iff :
    x.order? y = some .eq ↔ x.isNaN = false ∧ y.isNaN = false ∧ x.rank = y.rank := by
  cases hx : x.isNaN <;> cases hy : y.isNaN <;> simp [order?, hx, hy]

theorem order?_eq_of_common (hxz : x.order? z = some .eq) (hyz : y.order? z = some .eq) :
    x.order? y = some .eq := by
  rw [order?_eq_eq_iff] at *
  exact ⟨hxz.1, hyz.1, hxz.2.2.trans hyz.2.2.symm⟩

theorem order?_eq_lt_iff :
    x.order? y = some .lt ↔ x.isNaN = false ∧ y.isNaN = false ∧ x.rank < y.rank := by
  cases hx : x.isNaN <;> cases hy : y.isNaN <;> simp [order?, hx, hy, Int.compare_eq_lt]

/-- Only a double from `2 ^ 53` on is equal to two integers. -/
theorem le_magnitude_of_rounded {m n : Int} (hm : (ofInt m).order? z = some .eq)
    (hn : (ofInt n).order? z = some .eq) (hne : m ≠ n) :
    (ofNat (2 ^ 53)).magnitude ≤ z.magnitude := by
  rw [order?_eq_eq_iff] at hm hn
  by_contra hsmall
  rw [← natAbs_rank z, ← hm.2.2, natAbs_rank] at hsmall
  exact hne (eq_of_rank_ofInt (hm.2.2.trans hn.2.2.symm) (Nat.lt_of_not_le hsmall))

end Double

namespace ObjectId

theorem foldl_digits_inj {xs ys : List (Fin 16)} {m n : Nat} (hlength : xs.length = ys.length)
    (h : xs.foldl (fun n d => 16 * n + d.val) m = ys.foldl (fun n d => 16 * n + d.val) n) :
    m = n ∧ xs = ys := by
  induction xs generalizing ys m n with
  | nil =>
      obtain rfl := List.length_eq_zero_iff.mp hlength.symm
      exact ⟨h, rfl⟩
  | cons x xs ih =>
      cases ys with
      | nil => cases hlength
      | cons y ys =>
          obtain ⟨hfirst, rfl⟩ := ih (Nat.succ.inj hlength) h
          have hdigit : 16 * m + x.val = 16 * n + y.val := hfirst
          have hxy : x = y := Fin.ext (by omega)
          exact ⟨by omega, by rw [hxy]⟩

theorem toNat_inj {a b : ObjectId} (h : a.toNat = b.toNat) : a = b := by
  obtain ⟨xs, hxs⟩ := a
  obtain ⟨ys, hys⟩ := b
  obtain ⟨-, rfl⟩ := foldl_digits_inj (hxs.trans hys.symm) h
  rfl

instance : Std.TransOrd ObjectId :=
  ⟨fun {a b c} => @Std.TransCmp.isLE_trans Nat compare _ a.toNat b.toNat c.toNat⟩

instance : Std.LawfulEqOrd ObjectId :=
  ⟨fun {a b} h => toNat_inj (@Std.LawfulEqOrd.eq_of_compare Nat _ _ a.toNat b.toNat h)⟩

end ObjectId

namespace Native

variable {a b c : Native} {x y : Double} {m n : Int}

/-! ### Numbers -/

theorem toDouble?_of_toInt? (h : a.toInt? = some n) : a.toDouble? = some (.ofInt n) := by
  cases a with
  | int32 | int64 =>
      obtain rfl := Option.some.inj h
      rfl
  | _ => cases h

theorem order?_of_toDouble? (h : b.toDouble? = some y) : a.order? b = a.orderNumbers? b := by
  cases b with
  | int32 | int64 | double => cases a <;> rfl
  | _ => cases h

theorem eq_of_order?_of_toInt? (ha : a.toInt? = some m) (hb : b.toInt? = some n)
    (h : a.order? b = some .eq) : m = n := by
  rw [order?_of_toDouble? (toDouble?_of_toInt? hb), orderNumbers?, ha, hb] at h
  exact Std.LawfulEqOrd.eq_of_compare (Option.some.inj h)

/-- What is equal to a number is a number, and their doubles are equal too. -/
theorem toDouble?_of_order? (h : b.toDouble? = some y) (horder : a.order? b = some .eq) :
    ∃ x, a.toDouble? = some x ∧ x.order? y = some .eq := by
  rw [order?_of_toDouble? h, orderNumbers?] at horder
  split at horder
  · next m n hm hn =>
    obtain rfl : m = n := Std.LawfulEqOrd.eq_of_compare (Option.some.inj horder)
    obtain rfl : Double.ofInt m = y := Option.some.inj ((toDouble?_of_toInt? hn).symm.trans h)
    refine ⟨_, toDouble?_of_toInt? hm, Double.order?_eq_eq_iff.mpr ⟨?_, ?_, rfl⟩⟩
    all_goals exact Double.isNaN_ofInt m
  · rw [h] at horder
    cases hx : a.toDouble? with
    | none =>
        rw [hx] at horder
        cases horder
    | some x =>
        rw [hx] at horder
        exact ⟨x, rfl, horder⟩

/-- Numbers with equal doubles are equal, unless both are integers. -/
theorem order?_of_doubles (ha : a.toDouble? = some x) (hb : b.toDouble? = some y)
    (horder : x.order? y = some .eq)
    (hint : ∀ m n, a.toInt? = some m → b.toInt? = some n → m = n) : a.order? b = some .eq := by
  rw [order?_of_toDouble? hb, orderNumbers?]
  split
  · next m n hm hn => rw [hint m n hm hn, Std.ReflOrd.compare_self]
  · rw [ha, hb]
    exact horder

/-! ### Strict comparison -/

theorem orderNumbers?_of_toDouble? (h : a.toDouble? = some x) :
    a.order? b = a.orderNumbers? b := by
  cases a with
  | int32 | int64 | double => cases b <;> rfl
  | _ => cases h

/-- Whichever way a number is less than another, its double is not greater. Where the doubles do
not tell them apart, both are integers. -/
theorem orderNumbers?_eq_lt_iff : a.orderNumbers? b = some .lt ↔
    ∃ x y, a.toDouble? = some x ∧ b.toDouble? = some y ∧ x.isNaN = false ∧ y.isNaN = false ∧
      x.rank ≤ y.rank ∧
        (x.rank < y.rank ∨ ∃ m n, a.toInt? = some m ∧ b.toInt? = some n ∧ m < n) := by
  unfold orderNumbers?
  split
  · next m n hm hn =>
    have ha := toDouble?_of_toInt? hm
    have hb := toDouble?_of_toInt? hn
    constructor
    · intro h
      have hless : m < n := Int.compare_eq_lt.mp (Option.some.inj h)
      exact ⟨_, _, ha, hb, Double.isNaN_ofInt m, Double.isNaN_ofInt n,
        Double.rank_ofInt_mono (Int.le_of_lt hless), .inr ⟨m, n, hm, hn, hless⟩⟩
    · rintro ⟨x, y, hx, hy, -, -, -, hstrict⟩
      obtain rfl : Double.ofInt m = x := Option.some.inj (ha.symm.trans hx)
      obtain rfl : Double.ofInt n = y := Option.some.inj (hb.symm.trans hy)
      have hless : m < n := by
        rcases hstrict with hrank | ⟨i, j, hi, hj, hless⟩
        · -- integers in the other order would round to doubles in the other order
          by_contra hge
          have hmono := Double.rank_ofInt_mono (Int.le_of_not_gt hge)
          omega
        · obtain rfl : m = i := Option.some.inj (hm.symm.trans hi)
          obtain rfl : n = j := Option.some.inj (hn.symm.trans hj)
          exact hless
      rw [Int.compare_eq_lt.mpr hless]
  · next hnot =>
    have hints : ¬∃ m n, a.toInt? = some m ∧ b.toInt? = some n ∧ m < n := by
      rintro ⟨m, n, hm, hn, -⟩
      exact hnot m n hm hn
    simp only [Option.bind_eq_bind, Option.bind_eq_some_iff, Double.order?_eq_lt_iff, hints,
      or_false]
    constructor
    · rintro ⟨x, hx, y, hy, hxnan, hynan, hrank⟩
      exact ⟨x, y, hx, hy, hxnan, hynan, Int.le_of_lt hrank, hrank⟩
    · rintro ⟨x, y, hx, hy, hxnan, hynan, -, hrank⟩
      exact ⟨x, hx, y, hy, hxnan, hynan, hrank⟩

theorem orderNumbers?_trans (hab : a.orderNumbers? b = some .lt)
    (hbc : b.orderNumbers? c = some .lt) : a.orderNumbers? c = some .lt := by
  rw [orderNumbers?_eq_lt_iff] at *
  obtain ⟨x, y, hx, hy, hxnan, -, hxy, hab⟩ := hab
  obtain ⟨y', z, hy', hz, -, hznan, hyz, hbc⟩ := hbc
  obtain rfl : y = y' := Option.some.inj (hy.symm.trans hy')
  refine ⟨x, z, hx, hz, hxnan, hznan, Int.le_trans hxy hyz, ?_⟩
  rcases hab with hxy | ⟨m, n, hm, hn, hmn⟩
  · exact .inl (Int.lt_of_lt_of_le hxy hyz)
  rcases hbc with hyz | ⟨n', k, hn', hk, hnk⟩
  · exact .inl (Int.lt_of_le_of_lt hxy hyz)
  · obtain rfl : n = n' := Option.some.inj (hn.symm.trans hn')
    exact .inr ⟨m, k, hm, hk, Int.lt_trans hmn hnk⟩

/-- Being less is transitive. -/
theorem order?_trans (hab : a.order? b = some .lt) (hbc : b.order? c = some .lt) :
    a.order? c = some .lt := by
  cases b with
  | int32 | int64 | double =>
      rw [order?_of_toDouble? rfl] at hab
      rw [orderNumbers?_of_toDouble? rfl] at hbc
      obtain ⟨x, -, hx, -⟩ := orderNumbers?_eq_lt_iff.mp hab
      rw [orderNumbers?_of_toDouble? hx]
      exact orderNumbers?_trans hab hbc
  | string | bool | objectId | dateTime =>
      -- all three are of this kind
      cases a <;> try cases hab
      cases c <;> try cases hbc
      exact congrArg some (Std.TransCmp.lt_trans (Option.some.inj hab) (Option.some.inj hbc))
  | _ => cases a <;> cases hab

/-- A value compares with itself as equal, if it compares at all. -/
theorem order?_self_ne (value : Native) {order : Ordering} (h : order ≠ .eq) :
    value.order? value ≠ some order := by
  intro hself
  have hswap := order?_swap value value
  rw [hself, Option.map_some, Option.some.injEq] at hswap
  cases order with
  | eq => exact h rfl
  | lt | gt => cases hswap

end Native

end StageThree
