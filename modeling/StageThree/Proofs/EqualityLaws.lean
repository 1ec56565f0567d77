import StageThree.Proofs.Comparison

/-!
How far equality of stored values is an equivalence. It is reflexive where no NaN stands in a
value, and always symmetric. It is transitive but for one exception: a double may be equal to two
different integers that both round to it.
-/

namespace StageThree

namespace Native

variable {a b c : Native}

mutual

/-- Whether a double anywhere in a value is a NaN. -/
def holdsNaN : Native → Bool
  | .double x => x.isNaN
  | .array items => holdsNaNItems items
  | .document fields => holdsNaNFields fields
  | .scopedCode _ scope => holdsNaNFields scope
  | _ => false

def holdsNaNItems : List Native → Bool
  | [] => false
  | item :: rest => holdsNaN item || holdsNaNItems rest

def holdsNaNFields : List (String × Native) → Bool
  | [] => false
  | (_, value) :: rest => holdsNaN value || holdsNaNFields rest

end

/-! ### Sameness -/

theorem holdsNaNItems_eq_false_iff {items : List Native} :
    holdsNaNItems items = false ↔ ∀ item ∈ items, item.holdsNaN = false := by
  induction items with
  | nil => simp [holdsNaNItems]
  | cons item rest ih => simp [holdsNaNItems, ih]

theorem holdsNaNFields_eq_false_iff {fields : Document} :
    holdsNaNFields fields = false ↔ ∀ field ∈ fields, field.2.holdsNaN = false := by
  induction fields with
  | nil => simp [holdsNaNFields]
  | cons field rest ih => simp [holdsNaNFields, ih]

theorem sameItems_self {items : List Native} (h : ∀ item ∈ items, item.same item = true) :
    sameItems items items = true :=
  sameItems_iff.mpr (List.forall₂_same.mpr h)

theorem sameFields_self {fields : Document} (hfields : Fields.WellFormed fields)
    (h : ∀ field ∈ fields, field.2.same field.2 = true) : sameFields fields fields = true := by
  rw [sameFields_iff]
  intro field hfield
  exact ⟨field.2, (Fields.get?_eq_some_iff hfields).mpr hfield, h field hfield⟩

/-- A value without a NaN is the same as itself. -/
theorem same_self (hwell : a.WellFormed) (hnan : a.holdsNaN = false) : a.same a = true := by
  induction a using Native.induction with
  | scalar value h =>
      rw [(same_eq_sameScalar h value).1]
      cases value with
      | double x =>
          have hx : x.isNaN = false := hnan
          simp [sameScalar, Double.equal, Double.order?_eq_eq_iff, hx]
      | array | document | scopedCode => cases h
      | _ => simp [sameScalar]
  | array items ih =>
      rw [WellFormed, wellFormedItems_iff] at hwell
      rw [holdsNaN, holdsNaNItems_eq_false_iff] at hnan
      exact sameItems_self fun item hitem => ih item hitem (hwell item hitem) (hnan item hitem)
  | document fields ih =>
      rw [WellFormed, wellFormedFields_iff] at hwell
      rw [holdsNaN, holdsNaNFields_eq_false_iff] at hnan
      rw [same, beq_self_eq_true, Bool.true_and]
      exact sameFields_self hwell.1 fun field hfield =>
        ih field hfield (hwell.2 field hfield) (hnan field hfield)
  | scopedCode text scope ih =>
      rw [WellFormed, wellFormedFields_iff] at hwell
      rw [holdsNaN, holdsNaNFields_eq_false_iff] at hnan
      rw [same, beq_self_eq_true, beq_self_eq_true, Bool.true_and, Bool.true_and]
      exact sameFields_self hwell.1 fun field hfield =>
        ih field hfield (hwell.2 field hfield) (hnan field hfield)

theorem sameScalar_trans (hab : a.sameScalar b = true) (hbc : b.sameScalar c = true) :
    a.sameScalar c = true := by
  cases b with
  | double y =>
      cases a <;> try cases hab
      cases c <;> try cases hbc
      simp only [sameScalar, Double.equal, beq_iff_eq, Double.order?_eq_eq_iff] at *
      exact ⟨hab.1, hbc.2.1, hab.2.2.trans hbc.2.2⟩
  | _ =>
      cases a <;> try cases hab
      all_goals
        cases c <;> try cases hbc
        simp_all [sameScalar]

theorem sameItems_trans {as bs cs : List Native}
    (h : ∀ a ∈ as, ∀ {b c : Native}, a.same b = true → b.same c = true → a.same c = true)
    (hab : sameItems as bs = true) (hbc : sameItems bs cs = true) : sameItems as cs = true := by
  induction as generalizing bs cs with
  | nil =>
      cases bs with
      | nil => exact hbc
      | cons => cases hab
  | cons a as ih =>
      cases bs with
      | nil => cases hab
      | cons b bs =>
          cases cs with
          | nil => cases hbc
          | cons c cs =>
              simp only [sameItems, Bool.and_eq_true, List.forall_mem_cons] at *
              exact ⟨h.1 hab.1 hbc.1, ih h.2 hab.2 hbc.2⟩

theorem sameFields_trans {as bs cs : Document}
    (h : ∀ a ∈ as, ∀ {b c : Native}, a.2.same b = true → b.same c = true → a.2.same c = true)
    (hab : sameFields as bs = true) (hbc : sameFields bs cs = true) :
    sameFields as cs = true := by
  rw [sameFields_iff] at *
  intro a ha
  obtain ⟨b, hb, hsame⟩ := hab a ha
  obtain ⟨c, hc, hother⟩ := hbc (a.1, b) (Fields.mem_of_get? hb)
  exact ⟨c, hc, h a ha hsame hother⟩

theorem isNested_of_sameScalar (h : a.sameScalar b = true) : b.isNested = false := by
  cases b with
  | array | document | scopedCode => cases a <;> cases h
  | _ => rfl

/-- Sameness is transitive. -/
theorem same_trans (hab : a.same b = true) (hbc : b.same c = true) : a.same c = true := by
  induction a using Native.induction generalizing b c with
  | scalar value h =>
      rw [(same_eq_sameScalar h b).1] at hab
      have hb := isNested_of_sameScalar hab
      rw [(same_eq_sameScalar hb c).1] at hbc
      rw [(same_eq_sameScalar h c).1]
      exact sameScalar_trans hab hbc
  | array items ih =>
      cases b <;> try cases hab
      cases c <;> try cases hbc
      exact sameItems_trans ih hab hbc
  | document fields ih =>
      cases b <;> try cases hab
      cases c <;> try cases hbc
      simp only [same, Bool.and_eq_true, beq_iff_eq] at *
      exact ⟨hab.1.trans hbc.1, sameFields_trans ih hab.2 hbc.2⟩
  | scopedCode text scope ih =>
      cases b <;> try cases hab
      cases c <;> try cases hbc
      simp only [same, Bool.and_eq_true, beq_iff_eq] at *
      exact ⟨⟨hab.1.1.trans hbc.1.1, hab.1.2.trans hbc.1.2⟩, sameFields_trans ih hab.2 hbc.2⟩

/-! ### Equality -/

/-- What is equal to a number compares as equal with it. -/
theorem order?_of_equal {y : Double} (hb : b.toDouble? = some y) (h : a.equal b = true) :
    a.order? b = some .eq := by
  rw [equal, Bool.or_eq_true, beq_iff_eq] at h
  rcases h with horder | hsame
  · exact horder
  · cases b with
    | int32 | int64 =>
        cases a <;> try cases hsame
        simp only [same, sameScalar, beq_iff_eq] at hsame
        rw [hsame]
        exact congrArg some Std.ReflOrd.compare_self
    | double =>
        cases a <;> try cases hsame
        simp only [same, sameScalar, Double.equal, beq_iff_eq] at hsame
        exact hsame
    | _ => cases hb

/-- Beside the numbers, what compares as equal is the same. -/
theorem same_of_order? (hb : b.toDouble? = none) (h : a.order? b = some .eq) :
    a.same b = true := by
  cases b with
  | int32 | int64 | double => cases hb
  | null => cases a <;> first | rfl | cases h
  | string | bool | objectId =>
      cases a <;> try cases h
      rw [Std.LawfulEqOrd.eq_of_compare (Option.some.inj h)]
      simp [same, sameScalar]
  | dateTime =>
      cases a <;> try cases h
      have hmillis := Std.LawfulEqOrd.eq_of_compare (Option.some.inj h)
      simp [same, sameScalar, Int64.toInt_inj.mp hmillis]
  | _ => cases a <;> cases h

theorem same_of_equal (hb : b.toDouble? = none) (h : a.equal b = true) : a.same b = true := by
  rw [equal, Bool.or_eq_true, beq_iff_eq] at h
  exact h.elim (same_of_order? hb) id

theorem toDouble?_of_equal {y : Double} (hb : b.toDouble? = some y) (h : a.equal b = true) :
    ∃ x, a.toDouble? = some x ∧ x.order? y = some .eq :=
  toDouble?_of_order? hb (order?_of_equal hb h)

theorem equal_of_same (h : a.same b = true) : a.equal b = true := by
  rw [equal, h, Bool.or_true]

theorem equal_of_order? (h : a.order? b = some .eq) : a.equal b = true := by
  rw [equal, h]
  rfl

theorem equal_comm_of_scalar (h : a.isNested = false) (b : Native) : a.equal b = b.equal a := by
  obtain ⟨hsame, hturned⟩ := same_eq_sameScalar h b
  rw [equal, equal, order?_eq_comm, hsame, hturned, sameScalar_comm]

theorem isNested_of_toDouble? {y : Double} (h : a.toDouble? = some y) : a.isNested = false := by
  cases a with
  | array | document | scopedCode => cases h
  | _ => rfl

/-- A value without a NaN is equal to itself. -/
theorem equal_self (hwell : a.WellFormed) (hnan : a.holdsNaN = false) : a.equal a = true :=
  equal_of_same (same_self hwell hnan)

/-- Two different integers that round to one double, which stands between them. -/
def Rounded (a b c : Native) : Prop :=
  ∃ m n x, a.toInt? = some m ∧ c.toInt? = some n ∧ m ≠ n ∧ b = .double x ∧
    (Double.ofInt m).order? x = some .eq ∧ (Double.ofInt n).order? x = some .eq

theorem Rounded.swap (h : Rounded a b c) : Rounded c b a := by
  obtain ⟨m, n, x, ha, hc, hne, hb, hm, hn⟩ := h
  exact ⟨n, m, x, hc, ha, hne.symm, hb, hn, hm⟩

theorem Rounded.equal_left (h : Rounded a b c) : a.equal b = true := by
  obtain ⟨m, n, x, ha, -, -, rfl, hm, -⟩ := h
  exact equal_of_order? (order?_of_doubles (toDouble?_of_toInt? ha) rfl hm nofun)

theorem Rounded.equal_right (h : Rounded a b c) : b.equal c = true := by
  have hturned := h.swap.equal_left
  obtain ⟨-, -, x, -, -, -, rfl, -, -⟩ := h
  rw [equal_comm_of_scalar rfl, hturned]

/-- Integers compare exactly with each other. -/
theorem Rounded.not_equal (h : Rounded a b c) : a.equal c = false := by
  obtain ⟨m, n, x, ha, hc, hne, -⟩ := h
  by_contra hequal
  rw [Bool.not_eq_false] at hequal
  exact hne (eq_of_order?_of_toInt? ha hc (order?_of_equal (toDouble?_of_toInt? hc) hequal))

theorem Rounded.large (h : Rounded a b c) :
    ∃ x, b = .double x ∧ (Double.ofNat (2 ^ 53)).magnitude ≤ x.magnitude := by
  obtain ⟨m, n, x, -, -, hne, hb, hm, hn⟩ := h
  exact ⟨x, hb, Double.le_magnitude_of_rounded hm hn hne⟩

theorem equal_trans_of_number {y : Double} (hb : b.toDouble? = some y) (hab : a.equal b = true)
    (hcb : c.equal b = true) : a.equal c = true ∨ Rounded a b c := by
  obtain ⟨x, hx, hxy⟩ := toDouble?_of_equal hb hab
  obtain ⟨z, hz, hzy⟩ := toDouble?_of_equal hb hcb
  by_cases hints : ∀ m n, a.toInt? = some m → c.toInt? = some n → m = n
  · exact .inl (equal_of_order?
      (order?_of_doubles hx hz (Double.order?_eq_of_common hxy hzy) hints))
  simp only [not_forall, exists_prop] at hints
  obtain ⟨m, n, hm, hn, hne⟩ := hints
  obtain rfl : Double.ofInt m = x := Option.some.inj ((toDouble?_of_toInt? hm).symm.trans hx)
  obtain rfl : Double.ofInt n = z := Option.some.inj ((toDouble?_of_toInt? hn).symm.trans hz)
  cases b with
  | int32 | int64 =>
      -- both are equal to this integer, and that exactly
      have hmk := eq_of_order?_of_toInt? hm rfl (order?_of_equal hb hab)
      have hnk := eq_of_order?_of_toInt? hn rfl (order?_of_equal hb hcb)
      exact absurd (hmk.trans hnk.symm) hne
  | double x =>
      obtain rfl : x = y := Option.some.inj hb
      exact .inr ⟨m, n, x, hm, hn, hne, rfl, hxy, hzy⟩
  | _ => cases hb

/-- Equality is transitive but for integers that are both equal to a double. -/
theorem equal_trans_or_rounded (hab : a.equal b = true) (hbc : b.equal c = true) :
    a.equal c = true ∨ Rounded a b c := by
  cases hb : b.toDouble? with
  | some y =>
      rw [equal_comm_of_scalar (isNested_of_toDouble? hb)] at hbc
      exact equal_trans_of_number hb hab hbc
  | none =>
      have hc : c.toDouble? = none := by
        cases hc : c.toDouble? with
        | none => rfl
        | some z =>
            obtain ⟨y, hy, -⟩ := toDouble?_of_equal hc hbc
            exact absurd (hb.symm.trans hy) nofun
      exact .inl (equal_of_same (same_trans (same_of_equal hb hab) (same_of_equal hc hbc)))

theorem equal_trans_iff (hab : a.equal b = true) (hbc : b.equal c = true) :
    a.equal c = true ↔ ¬Rounded a b c := by
  constructor
  · intro hequal hrounded
    exact Bool.false_ne_true (hrounded.not_equal.symm.trans hequal)
  · exact (equal_trans_or_rounded hab hbc).resolve_right

/-- What is equal to anything is equal to itself. -/
theorem equal_self_of_equal (ha : a.WellFormed) (hb : b.WellFormed) (h : a.equal b = true) :
    a.equal a = true := by
  have hturned : b.equal a = true := (equal_comm hb ha).trans h
  refine (equal_trans_or_rounded h hturned).resolve_right ?_
  rintro ⟨m, n, x, hm, hn, hne, -⟩
  exact hne (Option.some.inj (hm.symm.trans hn))

end Native

end StageThree
