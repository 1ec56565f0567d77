import StageThree.Store.Order
import StageThree.Proofs.NamedFields
import StageThree.Proofs.Recursion

/-!
Equality of stored values is symmetric. Comparison turns around with its sides; sameness of
documents compares as many names on either side, and a name that only one of them has would be one
too many.
-/

namespace StageThree

theorem Double.order?_swap (x y : Double) : y.order? x = (x.order? y).map Ordering.swap := by
  unfold Double.order?
  rw [Bool.or_comm]
  split
  · rfl
  · rw [Option.map_some, ← Std.OrientedOrd.eq_swap]

instance : Std.OrientedOrd ObjectId :=
  ⟨fun {a b} => @Std.OrientedOrd.eq_swap Nat _ _ a.toNat b.toNat⟩

namespace Native

variable {a b : Native}

/-! ### Comparison -/

theorem orderNumbers?_swap (a b : Native) :
    b.orderNumbers? a = (a.orderNumbers? b).map Ordering.swap := by
  have hdoubles : (do (← b.toDouble?).order? (← a.toDouble?)) =
      (do (← a.toDouble?).order? (← b.toDouble?)).map Ordering.swap := by
    cases a.toDouble? with
    | none => cases b.toDouble? <;> rfl
    | some x =>
        cases b.toDouble? with
        | none => rfl
        | some y => exact Double.order?_swap x y
  unfold orderNumbers?
  cases a.toInt? with
  | none => cases b.toInt? <;> exact hdoubles
  | some m =>
      cases b.toInt? with
      | none => exact hdoubles
      | some n => simp [← Std.OrientedOrd.eq_swap]

theorem order?_swap (a b : Native) : b.order? a = (a.order? b).map Ordering.swap := by
  -- values of two kinds compare as numbers, if only to find that they are none
  cases a <;> cases b <;> simp only [order?] <;> first
    | exact orderNumbers?_swap _ _
    | exact congrArg some Std.OrientedOrd.eq_swap
    | rfl

theorem order?_eq_comm (a b : Native) : (a.order? b == some .eq) = (b.order? a == some .eq) := by
  rw [order?_swap a b]
  cases a.order? b with
  | none => rfl
  | some order => cases order <;> rfl

/-! ### Sameness -/

theorem wellFormedItems_iff {items : List Native} :
    WellFormedItems items ↔ ∀ item ∈ items, item.WellFormed := by
  induction items with
  | nil => simp [WellFormedItems]
  | cons item rest ih => simp [WellFormedItems, ih]

theorem wellFormedFields_iff {fields : Document} :
    WellFormedFields fields ↔ ∀ field ∈ fields, field.2.WellFormed := by
  induction fields with
  | nil => simp [WellFormedFields]
  | cons field rest ih => simp [WellFormedFields, ih]

theorem sameItems_iff {items others : List Native} : sameItems items others = true ↔
    List.Forall₂ (fun item other => item.same other = true) items others := by
  induction items generalizing others with
  | nil => cases others <;> simp [sameItems]
  | cons item rest ih => cases others <;> simp [sameItems, ih]

theorem sameFields_iff {fields others : Document} :
    sameFields fields others = true ↔ ∀ field ∈ fields, ∃ other,
      Fields.get? field.1 others = some other ∧ field.2.same other = true := by
  induction fields with
  | nil => simp [sameFields]
  | cons field rest ih =>
      obtain ⟨name, value⟩ := field
      simp only [sameFields, Bool.and_eq_true, ih, List.forall_mem_cons]
      cases Fields.get? name others <;> simp

theorem sameScalar_comm (a b : Native) : a.sameScalar b = b.sameScalar a := by
  cases a <;> cases b <;> first
    | rfl
    | exact BEq.comm
    | exact congrArg₂ (· && ·) BEq.comm BEq.comm
    | exact order?_eq_comm (.double _) (.double _)

theorem same_eq_sameScalar (h : a.isNested = false) (b : Native) :
    a.same b = a.sameScalar b ∧ b.same a = b.sameScalar a := by
  cases a <;> first
    | exact Bool.noConfusion h
    | cases b <;> exact ⟨rfl, rfl⟩

theorem sameItems_comm {items others : List Native}
    (h : ∀ item ∈ items, ∀ other ∈ others, item.same other = other.same item) :
    sameItems items others = sameItems others items := by
  induction items generalizing others with
  | nil => cases others <;> rfl
  | cons item rest ih =>
      cases others with
      | nil => rfl
      | cons other others =>
          simp only [List.forall_mem_cons] at h
          rw [sameItems, sameItems, h.1.1, ih fun item hitem => (h.2 item hitem).2]

/-- Fields that are as many as others and the same as them have their names, so that none of the
others is left over. -/
theorem exists_same_of_sameFields {fields others : Document} (hfields : Fields.WellFormed fields)
    (hlength : fields.length = others.length) (h : sameFields fields others = true) :
    Fields.WellFormed others ∧
      ∀ other ∈ others, ∃ field ∈ fields, field.1 = other.1 ∧ field.2.same other.2 = true := by
  rw [sameFields_iff] at h
  have hnames : Fields.keys fields ⊆ Fields.keys others := by
    intro name hname
    obtain ⟨field, hfield, rfl⟩ := List.mem_map.mp hname
    obtain ⟨other, hother, -⟩ := h field hfield
    exact Fields.mem_keys_of_mem (Fields.mem_of_get? hother)
  have hothers := Fields.wellFormed_of_length hfields hnames hlength
  refine ⟨hothers, fun other hother => ?_⟩
  obtain ⟨field, hfield, hname⟩ := List.mem_map.mp
    (Fields.keys_subset_of_length hfields hnames hlength (Fields.mem_keys_of_mem hother))
  obtain ⟨found, hfound, hsame⟩ := h field hfield
  -- the name leads to the field that the search began with
  rw [hname, (Fields.get?_eq_some_iff hothers).mpr hother] at hfound
  exact ⟨field, hfield, hname, Option.some.inj hfound ▸ hsame⟩

theorem sameFields_turn {fields others : Document} (hfields : Fields.WellFormed fields)
    (hlength : fields.length = others.length)
    (hcomm : ∀ field ∈ fields, ∀ other ∈ others, field.2.same other.2 = other.2.same field.2)
    (h : sameFields fields others = true) : sameFields others fields = true := by
  rw [sameFields_iff]
  intro other hother
  obtain ⟨field, hfield, hname, hsame⟩ :=
    (exists_same_of_sameFields hfields hlength h).2 other hother
  refine ⟨field.2, ?_, ?_⟩
  · rw [← hname, Fields.get?_eq_some_iff hfields]
    exact hfield
  · rw [← hcomm field hfield other hother, hsame]

theorem sameFields_comm {fields others : Document} (hfields : Fields.WellFormed fields)
    (hothers : Fields.WellFormed others)
    (hcomm : ∀ field ∈ fields, ∀ other ∈ others, field.2.same other.2 = other.2.same field.2) :
    (fields.length == others.length && sameFields fields others) =
      (others.length == fields.length && sameFields others fields) := by
  rw [Bool.eq_iff_iff]
  simp only [Bool.and_eq_true, beq_iff_eq]
  constructor
  · rintro ⟨hlength, h⟩
    exact ⟨hlength.symm, sameFields_turn hfields hlength hcomm h⟩
  · rintro ⟨hlength, h⟩
    refine ⟨hlength.symm, sameFields_turn hothers hlength ?_ h⟩
    exact fun other hother field hfield => (hcomm field hfield other hother).symm

theorem same_comm (ha : a.WellFormed) (hb : b.WellFormed) : a.same b = b.same a := by
  induction a using Native.induction generalizing b with
  | scalar value h =>
      obtain ⟨hsame, hturned⟩ := same_eq_sameScalar h b
      rw [hsame, hturned, sameScalar_comm]
  | array items ih =>
      cases b with
      | array others =>
          simp only [WellFormed, wellFormedItems_iff] at ha hb
          rw [same, same, sameItems_comm]
          exact fun item hitem other hother => ih item hitem (ha item hitem) (hb other hother)
      | _ => rfl
  | document fields ih =>
      cases b with
      | document others =>
          simp only [WellFormed, wellFormedFields_iff] at ha hb
          rw [same, same, sameFields_comm ha.1 hb.1]
          intro field hfield other hother
          exact ih field hfield (ha.2 field hfield) (hb.2 other hother)
      | _ => rfl
  | scopedCode text fields ih =>
      cases b with
      | scopedCode other others =>
          simp only [WellFormed, wellFormedFields_iff] at ha hb
          rw [same, same, Bool.and_assoc, Bool.and_assoc, sameFields_comm ha.1 hb.1, BEq.comm]
          intro field hfield other hother
          exact ih field hfield (ha.2 field hfield) (hb.2 other hother)
      | _ => rfl

theorem equal_comm (ha : a.WellFormed) (hb : b.WellFormed) : a.equal b = b.equal a := by
  rw [equal, equal, order?_eq_comm, same_comm ha hb]

end Native

end StageThree
