import StageThree.Proofs.EncodedText
import StageThree.Proofs.RoundTrip

/-!
Records that are written once more after they were read. What is returned of a value is stored as
the value was, with one exception: text that was itself encoded as text is returned as the inner
text, and that is taken for JSON again.
-/

namespace StageThree.Record

open Json (isBig)

variable {schema : ModelSchema} {options : TranslateOptions} {record : Record}
  {document : Document} {attr : String} {value : Json} {stored : Native}

/-! ### Values -/

/-- Whether a text is stored as it is under an attribute that is structured. -/
def StaysText (policy : CoercionPolicy) (text : String) : Prop :=
  policy = .permissive ∧ ∀ value, ¬Json.Encodes text value

theorem ne_strict_iff {policy : CoercionPolicy} : policy ≠ .strict ↔ policy = .permissive := by
  cases policy <;> decide

theorem storedValue_text_iff (h : TakesJson schema attr) (text : String) :
    storedValue schema options attr (.string text) = .ok (.string text) ↔
      StaysText options.coercion text := by
  rw [storedValue_eq_ok_iff, expected_of_takesJson h, meant, if_pos h, refused_string_iff h]
  by_cases hencodes : ∃ value, Json.Encodes text value
  · obtain ⟨value, hvalue⟩ := hencodes
    refine iff_of_false ?_ fun hstays => hstays.2 value hvalue
    rw [Json.decoded_of_encodes hvalue]
    rintro ⟨hsame, -⟩
    -- only text becomes text, and no text encodes itself
    have hconverted := Coercion.ofGeneric?_bigAsText value
    rw [Coercion.bigAsText_eq_self hvalue.2, hsame] at hconverted
    rw [Native.eq_string_of_ofGeneric? hconverted] at hvalue
    exact Json.parse?_ne_self text hvalue.1
  · have hnone := not_exists.mp hencodes
    rw [Json.decoded_of_not_encodes hnone, StaysText, ← ne_strict_iff]
    constructor
    · rintro ⟨-, hlenient⟩
      exact ⟨fun hstrict => hlenient hstrict hnone, hnone⟩
    · rintro ⟨hlenient, -⟩
      exact ⟨rfl, fun hstrict => absurd hstrict hlenient⟩

theorem returned_of_takesJson (h : TakesJson schema attr) (value : Json) :
    returned schema attr value = Coercion.bigAsText value.decoded := by
  rw [returned, holdsIdentifier_of_takesJson h, if_neg Bool.false_ne_true, meant, if_pos h]

/-- Where JSON is expected, text is returned only for text in text, for text that encodes nothing
and for a large integer. The last two are stored under the permissive policy alone, and their text
encodes nothing either. -/
theorem staysText_of_returned {text : String} (hjson : TakesJson schema attr)
    (h : storedValue schema options attr value = .ok stored)
    (hnested : ∀ outer inner, value = .string outer → Json.parse? outer = some (.string inner) →
      StaysText options.coercion inner)
    (htext : returned schema attr value = .string text) : StaysText options.coercion text := by
  have hlenient (hrefused : Refused schema attr value) : options.coercion = .permissive :=
    ne_strict_iff.mp fun hstrict => (storedValue_eq_ok_iff.mp h).2 hstrict hrefused
  rw [returned_of_takesJson hjson] at htext
  cases value with
  | string outer =>
      by_cases hencodes : ∃ encoded, Json.Encodes outer encoded
      · obtain ⟨encoded, hencoded⟩ := hencodes
        rw [Json.decoded_of_encodes hencoded, Coercion.bigAsText_eq_self hencoded.2] at htext
        exact hnested outer text rfl (htext ▸ hencoded.1)
      · have hnone := not_exists.mp hencodes
        rw [Json.decoded_of_not_encodes hnone] at htext
        obtain rfl := Json.string.inj htext
        exact ⟨hlenient ((refused_string_iff hjson outer).mpr hnone), hnone⟩
  | number n =>
      cases n with
      | big n above =>
          obtain rfl := Json.string.inj htext
          refine ⟨hlenient (.inl rfl), fun encoded hencoded => ?_⟩
          -- the decimal text encodes the integer, which is too large to be stored
          have hbig := hencoded.2
          rw [Option.some.inj (hencoded.1.symm.trans (Json.parse?_decimal n above))] at hbig
          cases hbig
      | int | double => cases htext
  | array | object => simp [Json.decoded] at htext
  | null | bool => cases htext

theorem expected_returned (h : ¬TakesJson schema attr) :
    expected schema attr (Coercion.storable (returned schema attr value)) =
      expected schema attr (Coercion.storable value) := by
  unfold expected returned
  rw [meant, if_neg h]
  split
  · rw [Coercion.identifier_storable_asIdentifier, Coercion.storable_bigAsText]
  · rw [Coercion.storable_bigAsText]

theorem somewhere_isBig_returned (schema : ModelSchema) (attr : String) (value : Json) :
    (returned schema attr value).somewhere isBig = false := by
  unfold returned
  split
  · rw [Json.somewhere_isBig_asIdentifier, Coercion.somewhere_isBig_bigAsText]
  · exact Coercion.somewhere_isBig_bigAsText _

/-- What is returned of a value is stored as the value was, except for text in text. -/
theorem storedValue_returned (h : storedValue schema options attr value = .ok stored)
    (hnested : TakesJson schema attr → ∀ outer inner, value = .string outer →
      Json.parse? outer = some (.string inner) → StaysText options.coercion inner) :
    storedValue schema options attr (returned schema attr value) = .ok stored := by
  have hstored := (storedValue_eq_ok_iff.mp h).1
  have hsmall := somewhere_isBig_returned schema attr value
  by_cases hjson : TakesJson schema attr
  · -- only text is decoded a second time
    rw [expected_of_takesJson hjson, meant, if_pos hjson, ← Coercion.storable_bigAsText,
      ← returned_of_takesJson hjson] at hstored
    by_cases htext : ∃ text, returned schema attr value = .string text
    · obtain ⟨text, htext⟩ := htext
      rw [htext] at hstored ⊢
      obtain rfl : Native.string text = stored := hstored
      exact (storedValue_text_iff hjson text).mpr
        (staysText_of_returned hjson h (hnested hjson) htext)
    · have htext := not_exists.mp htext
      rw [storedValue_eq_ok_iff, refused_iff_of_not_string htext, hsmall,
        expected_of_takesJson hjson, meant, if_pos hjson, Json.decoded_eq_self htext]
      exact ⟨hstored, fun _ => Bool.false_ne_true⟩
  · rw [storedValue_eq_ok_iff, refused_iff_of_not_takesJson hjson, hsmall, meant, if_neg hjson,
      expected_returned hjson]
    rw [meant, if_neg hjson] at hstored
    exact ⟨hstored, fun _ => Bool.false_ne_true⟩

/-! ### Records -/

theorem isWritten_returned (h : IsWritten schema attr value) :
    IsWritten schema attr (returned schema attr value) := by
  rintro rfl
  have hnull := h rfl
  have hidentifier : schema.holdsIdentifier schema.primaryKey = true := by
    simp [ModelSchema.holdsIdentifier, ModelSchema.isPrimaryKey]
  have hkey : ¬TakesJson schema schema.primaryKey := fun hjson => hjson.1 rfl
  rw [returned, if_pos hidentifier, meant, if_neg hkey]
  cases value with
  | null => exact hnull
  | number n => cases n <;> rfl
  | array | object => simp [Json.asIdentifier, Json.isNull]
  | bool | string => rfl

theorem names_read (hrecord : Returnable schema options record)
    (h : write schema options record = .ok document)
    (hkey : options.nativeKey ∈ Fields.keys (read schema options document)) :
    options.nativeKey = schema.primaryKey := by
  obtain ⟨⟨attr, value⟩, hfield, rfl⟩ := List.mem_map.mp hkey
  obtain ⟨given, hgiven, -, -⟩ := (mem_read_iff hrecord h).mp hfield
  exact hrecord.names (Fields.mem_keys_of_mem hgiven)

theorem mem_write_read_iff {again : Document} {name : String}
    (hrecord : Returnable schema options record) (h : write schema options record = .ok document)
    (hagain : write schema options (read schema options document) = .ok again) :
    (name, stored) ∈ again ↔ ∃ attr given, (attr, given) ∈ record ∧
      IsWritten schema attr given ∧ Filter.nativeField schema options attr = name ∧
        storedValue schema options attr (returned schema attr given) = .ok stored := by
  rw [mem_write_iff (Fields.keys_nodup_ofList _) (names_read hrecord h) hagain]
  constructor
  · rintro ⟨attr, value, hfield, -, hname, hstored⟩
    obtain ⟨given, hgiven, hwritten, rfl⟩ := (mem_read_iff hrecord h).mp hfield
    exact ⟨attr, given, hgiven, hwritten, hname, hstored⟩
  · rintro ⟨attr, given, hgiven, hwritten, hname, hstored⟩
    exact ⟨attr, returned schema attr given,
      (mem_read_iff hrecord h).mpr ⟨given, hgiven, hwritten, rfl⟩, isWritten_returned hwritten,
      hname, hstored⟩

theorem storedValue_of_write_read {again : Document}
    (hrecord : Returnable schema options record) (h : write schema options record = .ok document)
    (hagain : write schema options (read schema options document) = .ok again)
    (hsame : again.Perm document) (hmem : (attr, value) ∈ record)
    (hwritten : IsWritten schema attr value)
    (hstored : storedValue schema options attr value = .ok stored) :
    storedValue schema options attr (returned schema attr value) = .ok stored := by
  have hfield : (Filter.nativeField schema options attr, stored) ∈ document :=
    (mem_write_iff hrecord.wellFormed hrecord.names h).mpr
      ⟨attr, value, hmem, hwritten, rfl, hstored⟩
  obtain ⟨other, given, hgiven, -, hname, hother⟩ :=
    (mem_write_read_iff hrecord h hagain).mp (hsame.mem_iff.mpr hfield)
  -- the field that holds it again is that of the same attribute
  have hattr : other = attr := by
    rw [← attributeOf_of_mem hrecord.names hgiven, hname, attributeOf_of_mem hrecord.names hmem]
  rw [hattr] at hgiven hother
  rw [Fields.eq_of_mem hrecord.wellFormed hmem hgiven, hother]

theorem write_read_of_storedValue (hrecord : Returnable schema options record)
    (h : write schema options record = .ok document)
    (hvalues : ∀ attr value stored, (attr, value) ∈ record → IsWritten schema attr value →
      storedValue schema options attr value = .ok stored →
        storedValue schema options attr (returned schema attr value) = .ok stored) :
    ∃ again, write schema options (read schema options document) = .ok again ∧
      again.Perm document := by
  have hread : Fields.WellFormed (read schema options document) := Fields.keys_nodup_ofList _
  have hlenient : options.coercion = .strict →
      ∀ attr value, (attr, value) ∈ read schema options document →
        ¬Refused schema attr value := by
    intro hstrict attr value hfield
    obtain ⟨given, hgiven, hwritten, rfl⟩ := (mem_read_iff hrecord h).mp hfield
    obtain ⟨stored, hstored⟩ := exists_storedValue_of_write hrecord.wellFormed h hgiven
    have hagain := hvalues attr given stored hgiven hwritten hstored
    exact (storedValue_eq_ok_iff.mp hagain).2 hstrict
  obtain ⟨again, hagain⟩ := (exists_write_iff hread).mpr hlenient
  have hfirst := written_of_write hrecord.wellFormed hrecord.names h
  have hsecond := written_of_write hread (names_read hrecord h) hagain
  refine ⟨again, hagain, ?_⟩
  rw [List.perm_ext_iff_of_nodup (Fields.nodup_of_wellFormed hsecond.wellFormed)
    (Fields.nodup_of_wellFormed hfirst.wellFormed), Prod.forall]
  intro name stored
  rw [mem_write_read_iff hrecord h hagain, mem_write_iff hrecord.wellFormed hrecord.names h]
  refine exists₂_congr fun attr given => and_congr_right fun hgiven => and_congr_right fun hwritten =>
    and_congr_right fun _ => ?_
  obtain ⟨kept, hkept⟩ := exists_storedValue_of_write hrecord.wellFormed h hgiven
  rw [hvalues attr given kept hgiven hwritten hkept, hkept]

/-- Writing what was returned stores the same, field for field, unless some text for a structured
attribute encodes text. That is returned as the inner text, which is stored again only under the
permissive policy, and only if it encodes nothing itself. -/
theorem write_read_iff (hrecord : Returnable schema options record)
    (h : write schema options record = .ok document) :
    (∃ again, write schema options (read schema options document) = .ok again ∧
      again.Perm document) ↔
        ∀ attr outer inner, (attr, .string outer) ∈ record → TakesJson schema attr →
          Json.parse? outer = some (.string inner) → StaysText options.coercion inner := by
  constructor
  · rintro ⟨again, hagain, hsame⟩ attr outer inner hmem hjson hparse
    have hencodes : Json.Encodes outer (.string inner) := ⟨hparse, rfl⟩
    have hreturned : returned schema attr (.string outer) = .string inner := by
      rw [returned_of_takesJson hjson, Json.decoded_of_encodes hencodes]
      rfl
    have hstored : storedValue schema options attr (.string outer) = .ok (.string inner) := by
      rw [storedValue_eq_ok_iff, expected_of_takesJson hjson, meant, if_pos hjson,
        Json.decoded_of_encodes hencodes, refused_string_iff hjson]
      exact ⟨rfl, fun _ hnone => hnone _ hencodes⟩
    have hkept := storedValue_of_write_read hrecord h hagain hsame hmem
      (fun hkey => absurd hkey hjson.1) hstored
    rw [hreturned, storedValue_text_iff hjson] at hkept
    exact hkept
  · intro hnested
    refine write_read_of_storedValue hrecord h fun attr value stored hmem _ hstored => ?_
    refine storedValue_returned hstored ?_
    rintro hjson outer inner rfl hparse
    exact hnested attr outer inner hmem hjson hparse

/-- Encoded JSON that is saved again after it was read. -/
theorem write_read_iff_pet :
    let schema : ModelSchema := .declare .empty "settings" .json
    let record : Record := [("settings", .string "[1]"), ("id", .string "rex")]
    ∃ document, write schema .default record = .ok document ∧
      ∃ again, write schema .default (read schema .default document) = .ok again ∧
        again.Perm document := by
  intro schema record
  have hrecord : Fields.WellFormed record := by
    simp [record, Fields.WellFormed, Fields.keys]
  have hnames : TranslateOptions.default.nativeKey ∈ Fields.keys record →
      TranslateOptions.default.nativeKey = schema.primaryKey :=
    fun hmem => absurd hmem (by decide)
  have hencoded : Json.parse? "[1]" = some (.array [.number (.int 1)]) := rfl
  have hplain : ∀ attr value, (attr, value) ∈ record → Plain schema attr value := by
    intro attr value hmem
    simp only [record, List.mem_cons, Prod.mk.injEq, List.not_mem_nil, or_false] at hmem
    obtain ⟨rfl, rfl⟩ | ⟨rfl, rfl⟩ := hmem
    · exact .of_parse? hencoded rfl
    · exact .of_not_takesJson (by decide) rfl
  refine ⟨_, rfl, (write_read_iff ⟨hrecord, hnames, hplain⟩ rfl).mpr ?_⟩
  intro attr outer inner hmem hjson hparse
  simp only [record, List.mem_cons, Prod.mk.injEq, List.not_mem_nil, or_false] at hmem
  obtain ⟨rfl, hmem⟩ | ⟨rfl, hmem⟩ := hmem
  · obtain rfl := Json.string.inj hmem
    cases hencoded.symm.trans hparse
  · exact absurd hjson (by decide)

/-- A text in a text is returned as the inner one, and that is stored as a number. -/
theorem inner_text_changes :
    let schema : ModelSchema := .declare .empty "settings" .json
    Plain schema "settings" (.string "\"5\"") ∧
      ∃ document, write schema .default [("settings", .string "\"5\"")] = .ok document ∧
        ¬∃ again, write schema .default (read schema .default document) = .ok again ∧
          again.Perm document := by
  intro schema
  have hencoded : Json.parse? "\"5\"" = some (.string "5") := rfl
  refine ⟨.of_parse? hencoded rfl, [("settings", .string "5")], rfl, ?_⟩
  rintro ⟨again, hagain, hsame⟩
  have hnumber : write schema .default (read schema .default [("settings", .string "5")]) =
      .ok [("settings", .int64 5)] := rfl
  obtain rfl := Except.ok.inj (hnumber.symm.trans hagain)
  cases List.perm_singleton.mp hsame

end StageThree.Record
