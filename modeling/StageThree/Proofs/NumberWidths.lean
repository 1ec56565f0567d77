import StageThree.Proofs.EqualityLaws

/-!
Integers in one width and in the other. Comparison takes no notice of widths, and neither does
equality of scalars. Arrays and documents have no order, so that equality with one of them is
sameness of structure, which tells the widths of the integers inside apart.
-/

namespace StageThree

namespace Native

/-! ### Scalars at every depth -/

mutual

/-- Replaces the values that hold no others, at every depth. -/
def onScalars (f : Native → Native) : Native → Native
  | .array items => .array (onScalarsItems f items)
  | .document fields => .document (onScalarsFields f fields)
  | .scopedCode text scope => .scopedCode text (onScalarsFields f scope)
  | value => f value

def onScalarsItems (f : Native → Native) : List Native → List Native
  | [] => []
  | item :: rest => onScalars f item :: onScalarsItems f rest

def onScalarsFields (f : Native → Native) : List (String × Native) → List (String × Native)
  | [] => []
  | (name, value) :: rest => (name, onScalars f value) :: onScalarsFields f rest

end

def wide : Native → Native
  | .int32 n => .int64 n.toInt64
  | value => value

/-- An integer in its other width, if it has one. -/
def inOtherWidth : Native → Native
  | .int32 n => .int64 n.toInt64
  | .int64 n => if n.toInt32.toInt64 = n then .int32 n.toInt32 else .int64 n
  | value => value

def widened (value : Native) : Native := value.onScalars wide

def exchanged (value : Native) : Native := value.onScalars inOtherWidth

/-- Whether values differ at most in the widths of their integers, at any depth. -/
def SameButWidths (a b : Native) : Prop := a.widened = b.widened

/-- Whether equality with a value depends on widths: it is an array or a document that holds an
integer of both widths, and no NaN, which would make it equal to nothing. -/
def TellsWidths (target : Native) : Prop :=
  target.isNested = true ∧ target.exchanged ≠ target ∧ target.holdsNaN = false

variable {a b value target : Native} {f : Native → Native}

theorem onScalars_array (f : Native → Native) (items : List Native) :
    (array items).onScalars f = .array (items.map (onScalars f)) := by
  have hitems (items : List Native) : onScalarsItems f items = items.map (onScalars f) := by
    induction items with
    | nil => rfl
    | cons item rest ih => rw [onScalarsItems, List.map_cons, ih]
  rw [onScalars, hitems]

theorem onScalarsFields_eq_map (f : Native → Native) (fields : Document) :
    onScalarsFields f fields = fields.map fun field => (field.1, field.2.onScalars f) := by
  induction fields with
  | nil => rfl
  | cons field rest ih => rw [onScalarsFields, List.map_cons, ih]

theorem onScalars_document (f : Native → Native) (fields : Document) :
    (document fields).onScalars f =
      .document (fields.map fun field => (field.1, field.2.onScalars f)) := by
  rw [onScalars, onScalarsFields_eq_map]

theorem onScalars_scopedCode (f : Native → Native) (text : String) (scope : Document) :
    (scopedCode text scope).onScalars f =
      .scopedCode text (scope.map fun field => (field.1, field.2.onScalars f)) := by
  rw [onScalars, onScalarsFields_eq_map]

theorem onScalars_of_scalar (f : Native → Native) (h : value.isNested = false) :
    value.onScalars f = f value := by
  cases value with
  | array | document | scopedCode => cases h
  | _ => rfl

theorem isNested_wide (value : Native) : (wide value).isNested = value.isNested := by
  cases value <;> rfl

theorem isNested_inOtherWidth (value : Native) :
    (inOtherWidth value).isNested = value.isNested := by
  cases value with
  | int64 n =>
      rw [inOtherWidth]
      split <;> rfl
  | _ => rfl

theorem isNested_onScalars (hf : ∀ value, (f value).isNested = value.isNested) (value : Native) :
    (value.onScalars f).isNested = value.isNested := by
  cases value with
  | array | document | scopedCode => rfl
  | _ => exact hf _

theorem onScalars_eq_array_iff {items : List Native}
    (hf : ∀ value, (f value).isNested = value.isNested) :
    value.onScalars f = .array items ↔
      ∃ others, value = .array others ∧ others.map (onScalars f) = items := by
  cases h : value.isNested with
  | false =>
      rw [onScalars_of_scalar f h]
      constructor
      · intro harray
        rw [← hf, harray] at h
        cases h
      · rintro ⟨others, rfl, -⟩
        cases h
  | true =>
      cases value with
      | array others => simp [onScalars_array]
      | document fields => simp [onScalars_document]
      | scopedCode text scope => simp [onScalars_scopedCode]
      | _ => cases h

theorem keys_onScalars (f : Native → Native) (fields : Document) :
    Fields.keys (fields.map fun field => (field.1, field.2.onScalars f)) = Fields.keys fields := by
  simp [Fields.keys, Function.comp_def]

theorem wellFormed_of_scalar (h : value.isNested = false) : value.WellFormed := by
  cases value with
  | array | document | scopedCode => cases h
  | _ => trivial

/-- The names in a value are not scalars of it. -/
theorem wellFormed_onScalars_iff (hf : ∀ value, (f value).isNested = value.isNested) :
    (value.onScalars f).WellFormed ↔ value.WellFormed := by
  induction value using Native.induction with
  | scalar value h =>
      have hscalar := (isNested_onScalars hf value).trans h
      exact iff_of_true (wellFormed_of_scalar hscalar) (wellFormed_of_scalar h)
  | array items ih =>
      rw [onScalars_array, WellFormed, WellFormed, wellFormedItems_iff, wellFormedItems_iff,
        List.forall_mem_map]
      exact forall₂_congr ih
  | document fields ih =>
      rw [onScalars_document, WellFormed, WellFormed, wellFormedFields_iff, wellFormedFields_iff,
        List.forall_mem_map, Fields.WellFormed, keys_onScalars]
      exact and_congr_right fun _ => forall₂_congr ih
  | scopedCode text fields ih =>
      rw [onScalars_scopedCode, WellFormed, WellFormed, wellFormedFields_iff,
        wellFormedFields_iff, List.forall_mem_map, Fields.WellFormed, keys_onScalars]
      exact and_congr_right fun _ => forall₂_congr ih

theorem onScalars_onScalars {g : Native → Native}
    (hf : ∀ value, (f value).isNested = value.isNested) (value : Native) :
    (value.onScalars f).onScalars g = value.onScalars (g ∘ f) := by
  induction value using Native.induction with
  | scalar value h =>
      rw [onScalars_of_scalar f h, onScalars_of_scalar g ((hf value).trans h),
        onScalars_of_scalar (g ∘ f) h]
      rfl
  | array items ih => simpa [onScalars_array] using ih
  | document fields ih => simpa [onScalars_document] using fun name value => ih (name, value)
  | scopedCode text scope ih =>
      simpa [onScalars_scopedCode] using fun name value => ih (name, value)

/-! ### Comparison -/

theorem order?_of_isNested (h : a.isNested = true) (b : Native) : a.order? b = none := by
  cases a with
  | array | document | scopedCode => cases b <;> rfl
  | _ => cases h

theorem order?_wide (a b : Native) : (wide a).order? b = a.order? b := by
  cases a with
  | int32 n =>
      show orderNumbers? (.int64 n.toInt64) b = orderNumbers? (.int32 n) b
      simp only [orderNumbers?, toInt?, toDouble?, Int32.toInt_toInt64]
  | _ => rfl

/-- A value compares alike whatever the widths in it are. -/
theorem order?_widened (a b : Native) : a.widened.order? b = a.order? b := by
  cases ha : a.isNested with
  | false => rw [widened, onScalars_of_scalar wide ha, order?_wide]
  | true =>
      have hwidened : a.widened.isNested = true := (isNested_onScalars isNested_wide a).trans ha
      rw [order?_of_isNested ha, order?_of_isNested hwidened]

/-- Equality of a number is comparison alone. -/
theorem equal_eq_order? {x : Double} (h : a.toDouble? = some x) (b : Native) :
    a.equal b = (a.order? b == some .eq) := by
  rw [order?_eq_comm, equal_comm_of_scalar (isNested_of_toDouble? h), Bool.eq_iff_iff, beq_iff_eq]
  exact ⟨order?_of_equal h, equal_of_order?⟩

theorem equal_wide (a b : Native) : (wide a).equal b = a.equal b := by
  cases a with
  | int32 n =>
      rw [equal_eq_order? (a := .int32 n) rfl, ← order?_wide]
      exact equal_eq_order? rfl b
  | _ => rfl

theorem wide_inOtherWidth (value : Native) : wide (inOtherWidth value) = wide value := by
  cases value with
  | int64 n =>
      rw [inOtherWidth]
      split
      · next h => simp [wide, h]
      · rfl
  | _ => rfl

theorem wellFormed_of_sameButWidths (h : a.SameButWidths b) (ha : a.WellFormed) :
    b.WellFormed := by
  have hwidened : a.widened.WellFormed := (wellFormed_onScalars_iff isNested_wide).mpr ha
  rw [h] at hwidened
  exact (wellFormed_onScalars_iff isNested_wide).mp hwidened

theorem sameButWidths_exchanged (value : Native) : value.SameButWidths value.exchanged := by
  rw [SameButWidths, exchanged, widened, widened, onScalars_onScalars isNested_inOtherWidth]
  exact congrArg (value.onScalars ·) (funext fun value => (wide_inOtherWidth value).symm)

/-! ### Sameness -/

theorem map_eq_self_iff {α : Type} {f : α → α} {values : List α} :
    values.map f = values ↔ ∀ value ∈ values, f value = value := by
  have h := @List.map_inj_left _ _ values f id
  rwa [List.map_id] at h

theorem exchanged_array_iff {items : List Native} :
    (array items).exchanged = .array items ↔ ∀ item ∈ items, item.exchanged = item := by
  rw [exchanged, onScalars_array, Native.array.injEq]
  exact map_eq_self_iff

theorem exchanged_fields_iff {fields : Document} :
    (fields.map fun field => (field.1, field.2.exchanged)) = fields ↔
      ∀ field ∈ fields, field.2.exchanged = field.2 := by
  rw [map_eq_self_iff]
  refine forall₂_congr fun field _ => ?_
  rw [Prod.ext_iff]
  exact and_iff_right rfl

theorem exchanged_document_iff {fields : Document} :
    (document fields).exchanged = .document fields ↔
      ∀ field ∈ fields, field.2.exchanged = field.2 := by
  rw [exchanged, onScalars_document, Native.document.injEq]
  exact exchanged_fields_iff

theorem exchanged_scopedCode_iff {text : String} {scope : Document} :
    (scopedCode text scope).exchanged = .scopedCode text scope ↔
      ∀ field ∈ scope, field.2.exchanged = field.2 := by
  rw [exchanged, onScalars_scopedCode, Native.scopedCode.injEq, and_iff_right rfl]
  exact exchanged_fields_iff

theorem sameItems_map {items others : List Native}
    (h : ∀ item ∈ items, ∀ other ∈ others, (f item).same other = item.same other) :
    sameItems (items.map f) others = sameItems items others := by
  induction items generalizing others with
  | nil => rfl
  | cons item rest ih =>
      cases others with
      | nil => rfl
      | cons other others =>
          simp only [List.forall_mem_cons] at h
          rw [List.map_cons, sameItems, sameItems, h.1.1, ih fun item hitem => (h.2 item hitem).2]

theorem sameFields_map {fields others : Document}
    (h : ∀ field ∈ fields, ∀ other ∈ others, (f field.2).same other.2 = field.2.same other.2) :
    sameFields (fields.map fun field => (field.1, f field.2)) others = sameFields fields others := by
  induction fields with
  | nil => rfl
  | cons field rest ih =>
      rw [List.forall_mem_cons] at h
      rw [List.map_cons, sameFields, sameFields, ih h.2]
      cases hget : Fields.get? field.1 others with
      | none => rfl
      | some other =>
          dsimp only
          rw [h.1 (field.1, other) (Fields.mem_of_get? hget)]

/-- Against a value without integers of both widths, widths do not count. -/
theorem same_widened (htarget : target.exchanged = target) (value : Native) :
    value.widened.same target = value.same target := by
  induction value using Native.induction generalizing target with
  | scalar value h =>
      rw [widened, onScalars_of_scalar wide h]
      cases value with
      | int32 n =>
          cases target with
          | int32 m => cases htarget
          | int64 m =>
              have hne : n.toInt64 ≠ m := by
                rintro rfl
                rw [exchanged, onScalars, inOtherWidth, Int32.toInt32_toInt64, if_pos rfl] at htarget
                · cases htarget
                all_goals simp
              exact beq_eq_false_iff_ne.mpr hne
          | _ => rfl
      | _ => rfl
  | array items ih =>
      rw [widened, onScalars_array]
      cases target with
      | array others =>
          rw [exchanged_array_iff] at htarget
          exact sameItems_map fun item hitem other hother => ih item hitem (htarget other hother)
      | _ => rfl
  | document fields ih =>
      rw [widened, onScalars_document]
      cases target with
      | document others =>
          rw [exchanged_document_iff] at htarget
          rw [same, same, List.length_map, sameFields_map]
          exact fun field hfield other hother => ih field hfield (htarget other hother)
      | _ => rfl
  | scopedCode text scope ih =>
      rw [widened, onScalars_scopedCode]
      cases target with
      | scopedCode other others =>
          rw [exchanged_scopedCode_iff] at htarget
          rw [same, same, List.length_map, sameFields_map]
          exact fun field hfield other hother => ih field hfield (htarget other hother)
      | _ => rfl

/-! ### Values with a NaN -/

theorem exists_of_forall₂ {α β : Type} {related : α → β → Prop} {as : List α} {bs : List β}
    (h : List.Forall₂ related as bs) : ∀ b ∈ bs, ∃ a ∈ as, related a b := by
  induction h with
  | nil => simp
  | cons hfirst _ ih =>
      rw [List.forall_mem_cons]
      refine ⟨⟨_, List.mem_cons_self .., hfirst⟩, fun b hb => ?_⟩
      obtain ⟨a, ha, hrelated⟩ := ih b hb
      exact ⟨a, .tail _ ha, hrelated⟩

/-- What is the same as a well-formed value is well-formed. -/
theorem wellFormed_of_same (ha : a.WellFormed) (h : a.same b = true) : b.WellFormed := by
  induction a using Native.induction generalizing b with
  | scalar value hscalar =>
      rw [(same_eq_sameScalar hscalar b).1] at h
      exact wellFormed_of_scalar (isNested_of_sameScalar h)
  | array items ih =>
      cases b <;> try cases h
      rw [WellFormed, wellFormedItems_iff] at ha ⊢
      intro other hother
      obtain ⟨item, hitem, hsame⟩ := exists_of_forall₂ (sameItems_iff.mp h) other hother
      exact ih item hitem (ha item hitem) hsame
  | document fields ih =>
      cases b <;> try cases h
      rw [same, Bool.and_eq_true, beq_iff_eq] at h
      rw [WellFormed, wellFormedFields_iff] at ha ⊢
      obtain ⟨hothers, hsame⟩ := exists_same_of_sameFields ha.1 h.1 h.2
      refine ⟨hothers, fun other hother => ?_⟩
      obtain ⟨field, hfield, -, hsame⟩ := hsame other hother
      exact ih field hfield (ha.2 field hfield) hsame
  | scopedCode text scope ih =>
      cases b <;> try cases h
      rw [same, Bool.and_eq_true, Bool.and_eq_true, beq_iff_eq, beq_iff_eq] at h
      rw [WellFormed, wellFormedFields_iff] at ha ⊢
      obtain ⟨hothers, hsame⟩ := exists_same_of_sameFields ha.1 h.1.2 h.2
      refine ⟨hothers, fun other hother => ?_⟩
      obtain ⟨field, hfield, -, hsame⟩ := hsame other hother
      exact ih field hfield (ha.2 field hfield) hsame

/-- What is the same as anything holds no NaN. -/
theorem holdsNaN_eq_false_of_same (h : a.same b = true) : a.holdsNaN = false := by
  induction a using Native.induction generalizing b with
  | scalar value hscalar =>
      rw [(same_eq_sameScalar hscalar b).1] at h
      cases value with
      | double x =>
          cases b <;> try cases h
          simp only [sameScalar, Double.equal, beq_iff_eq, Double.order?_eq_eq_iff] at h
          exact h.1
      | array | document | scopedCode => cases hscalar
      | _ => rfl
  | array items ih =>
      cases b <;> try cases h
      rw [holdsNaN, holdsNaNItems_eq_false_iff]
      intro item hitem
      obtain ⟨other, -, hsame⟩ := exists_of_forall₂ (sameItems_iff.mp h).flip item hitem
      exact ih item hitem hsame
  | document fields ih =>
      cases b <;> try cases h
      rw [same, Bool.and_eq_true, sameFields_iff] at h
      rw [holdsNaN, holdsNaNFields_eq_false_iff]
      intro field hfield
      obtain ⟨other, -, hsame⟩ := h.2 field hfield
      exact ih field hfield hsame
  | scopedCode text scope ih =>
      cases b <;> try cases h
      rw [same, Bool.and_eq_true, sameFields_iff] at h
      rw [holdsNaN, holdsNaNFields_eq_false_iff]
      intro field hfield
      obtain ⟨other, -, hsame⟩ := h.2 field hfield
      exact ih field hfield hsame

/-- Nothing is the same as a value with a NaN. -/
theorem same_eq_false_of_holdsNaN (ha : a.WellFormed) (hb : b.holdsNaN = true) :
    a.same b = false := by
  rw [← Bool.not_eq_true]
  intro h
  have hturned : b.same a = true := (same_comm ha (wellFormed_of_same ha h)).symm.trans h
  rw [holdsNaN_eq_false_of_same hturned] at hb
  cases hb

/-! ### Equality -/

theorem isNested_of_same (h : a.same b = true) : a.isNested = b.isNested := by
  cases ha : a.isNested with
  | false =>
      rw [(same_eq_sameScalar ha b).1] at h
      exact (isNested_of_sameScalar h).symm
  | true =>
      cases a with
      | array | document | scopedCode => cases b <;> first | rfl | cases h
      | _ => cases ha

/-- Equality with an array or a document is sameness of structure. -/
theorem equal_eq_same (h : b.isNested = true) (a : Native) : a.equal b = a.same b := by
  rw [equal, order?_swap b a, order?_of_isNested h]
  rfl

theorem equal_eq_false_of_isNested_ne (h : a.isNested ≠ b.isNested) : a.equal b = false := by
  cases hb : b.isNested with
  | true =>
      rw [equal_eq_same hb, ← Bool.not_eq_true]
      exact fun hsame => h (isNested_of_same hsame)
  | false =>
      have ha : a.isNested = true := by
        rwa [hb, ne_eq, Bool.not_eq_false] at h
      rw [← equal_comm_of_scalar hb, equal_eq_same ha, ← Bool.not_eq_true]
      exact fun hsame => h (isNested_of_same hsame).symm

/-- Equality takes no notice of widths, unless a value that holds others is compared with one that
tells widths apart. -/
theorem equal_widened (hvalue : value.WellFormed)
    (h : value.isNested = true → ¬target.TellsWidths) :
    value.widened.equal target = value.equal target := by
  have hwidened : value.widened.isNested = value.isNested := isNested_onScalars isNested_wide value
  by_cases hkinds : value.isNested = target.isNested
  · cases htarget : target.isNested with
    | false =>
        rw [widened, onScalars_of_scalar wide (hkinds.trans htarget), equal_wide]
    | true =>
        rw [equal_eq_same htarget, equal_eq_same htarget]
        cases hnan : target.holdsNaN with
        | true =>
            have hwell : value.widened.WellFormed :=
              (wellFormed_onScalars_iff isNested_wide).mpr hvalue
            rw [same_eq_false_of_holdsNaN hvalue hnan, same_eq_false_of_holdsNaN hwell hnan]
        | false =>
            refine same_widened ?_ value
            by_contra hexchanged
            exact h (hkinds.trans htarget) ⟨htarget, hexchanged, hnan⟩
  · rw [equal_eq_false_of_isNested_ne hkinds,
      equal_eq_false_of_isNested_ne (hwidened.symm ▸ hkinds)]

/-! ### Values that tell widths apart -/

theorem same_of_sameFields_map {fields : Document} (hfields : Fields.WellFormed fields)
    (h : sameFields (fields.map fun field => (field.1, f field.2)) fields = true) :
    ∀ field ∈ fields, (f field.2).same field.2 = true := by
  rw [sameFields_iff, List.forall_mem_map] at h
  intro field hfield
  obtain ⟨other, hother, hsame⟩ := h field hfield
  rw [(Fields.get?_eq_some_iff hfields).mpr hfield] at hother
  exact Option.some.inj hother ▸ hsame

theorem exchanged_eq_of_same (hwell : a.WellFormed) (h : a.exchanged.same a = true) :
    a.exchanged = a := by
  induction a using Native.induction with
  | scalar value hscalar =>
      rw [exchanged, onScalars_of_scalar inOtherWidth hscalar] at h ⊢
      cases value with
      | int32 => cases h
      | int64 n =>
          rw [inOtherWidth] at h ⊢
          split at h
          · cases h
          · next hfits => rw [if_neg hfits]
      | _ => rfl
  | array items ih =>
      rw [WellFormed, wellFormedItems_iff] at hwell
      rw [exchanged, onScalars_array, same, sameItems_iff, List.forall₂_map_left_iff,
        List.forall₂_same] at h
      rw [exchanged_array_iff]
      exact fun item hitem => ih item hitem (hwell item hitem) (h item hitem)
  | document fields ih =>
      rw [WellFormed, wellFormedFields_iff] at hwell
      rw [exchanged, onScalars_document, same, Bool.and_eq_true] at h
      rw [exchanged_document_iff]
      exact fun field hfield => ih field hfield (hwell.2 field hfield)
        (same_of_sameFields_map hwell.1 h.2 field hfield)
  | scopedCode text scope ih =>
      rw [WellFormed, wellFormedFields_iff] at hwell
      rw [exchanged, onScalars_scopedCode, same, Bool.and_eq_true] at h
      rw [exchanged_scopedCode_iff]
      exact fun field hfield => ih field hfield (hwell.2 field hfield)
        (same_of_sameFields_map hwell.1 h.2 field hfield)

/-- An array is none of its own elements, in whatever widths. -/
theorem exchanged_same_array {items : List Native} {item : Native} (hitem : item ∈ items) :
    item.exchanged.same (.array items) = false := by
  -- in an array that is an element of itself the same holds of that element
  suffices ∀ value : Native, ∀ items, value = .array items →
      ∀ item ∈ items, item.exchanged.same (.array items) = false from
    this _ items rfl item hitem
  intro value
  induction value using Native.induction with
  | array items ih =>
      rintro items ⟨⟩ item hitem
      cases item with
      | array others =>
          rw [← Bool.not_eq_true, exchanged, onScalars_array, same, sameItems_iff,
            List.forall₂_map_left_iff]
          intro h
          obtain ⟨other, hother, hsame⟩ := exists_of_forall₂ h (.array others) hitem
          exact Bool.false_ne_true ((ih _ hitem others rfl other hother).symm.trans hsame)
      | int64 n =>
          rw [exchanged, onScalars, inOtherWidth]
          split <;> rfl
          all_goals simp
      | _ => rfl
  | scalar value h =>
      rintro items rfl
      cases h
  | document => rintro items ⟨⟩
  | scopedCode => rintro items ⟨⟩

/-- A value that tells widths apart is not equal to what it becomes in other widths. -/
theorem TellsWidths.not_equal_exchanged (h : target.TellsWidths) (hwell : target.WellFormed) :
    target.exchanged.equal target = false := by
  rw [equal_eq_same h.1, ← Bool.not_eq_true]
  exact fun hsame => h.2.1 (exchanged_eq_of_same hwell hsame)

theorem TellsWidths.not_equal_of_mem (h : target.TellsWidths) {items : List Native} {item : Native}
    (hitems : target.exchanged = .array items) (hitem : item ∈ items) :
    item.equal target = false := by
  obtain ⟨others, rfl, rfl⟩ := (onScalars_eq_array_iff isNested_inOtherWidth).mp hitems
  obtain ⟨other, hother, rfl⟩ := List.mem_map.mp hitem
  rw [equal_eq_same rfl]
  exact exchanged_same_array hother

end Native

end StageThree
