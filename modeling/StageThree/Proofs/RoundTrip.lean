import Mathlib.Data.List.Nodup
import StageThree.Proofs.IdentifierText
import StageThree.Proofs.Policies

/-!
Records that are written and read back. Each attribute is returned under its own name with the
value that was meant: what its text encodes where JSON is expected, an identifier in lower case,
and integers beyond the signed range as text.
-/

namespace StageThree.Record

open Json (isExtended)

variable {schema : ModelSchema} {options : TranslateOptions} {record : Record}
  {document : Document} {attr name : String} {value : Json} {stored : Native}

/-! ### Attributes -/

/-- Whether no object is extended JSON, in a value or in what its text encodes. -/
structure Plain (schema : ModelSchema) (attr : String) (value : Json) : Prop where
  whole : value.somewhere isExtended = false
  encoded : TakesJson schema attr → ∀ text encoded, value = .string text →
    Json.parse? text = some encoded → encoded.somewhere isExtended = false

/-- What a record has to be to come back as it was meant. -/
structure Returnable (schema : ModelSchema) (options : TranslateOptions) (record : Record) :
    Prop where
  wellFormed : Fields.WellFormed record
  /-- Only the primary key may go by the name that keys have in the store. -/
  names : options.nativeKey ∈ Fields.keys record → options.nativeKey = schema.primaryKey
  plain : ∀ attr value, (attr, value) ∈ record → Plain schema attr value

def returned (schema : ModelSchema) (attr : String) (value : Json) : Json :=
  if schema.holdsIdentifier attr then (Coercion.bigAsText (meant schema attr value)).asIdentifier
  else Coercion.bigAsText (meant schema attr value)

theorem Plain.meant (h : Plain schema attr value) :
    (meant schema attr value).somewhere isExtended = false := by
  unfold Record.meant
  split
  · next hjson =>
    cases value with
    | string text =>
        by_cases hencodes : ∃ encoded, Json.Encodes text encoded
        · obtain ⟨encoded, hencoded⟩ := hencodes
          rw [Json.decoded_of_encodes hencoded]
          exact h.encoded hjson text encoded rfl hencoded.1
        · rw [Json.decoded_of_not_encodes (not_exists.mp hencodes)]
          rfl
    | _ => exact h.whole
  · exact h.whole

theorem Plain.of_parse? {text : String} {encoded : Json} (h : Json.parse? text = some encoded)
    (hplain : encoded.somewhere isExtended = false) : Plain schema attr (.string text) := by
  refine ⟨rfl, fun _ other found hother hfound => ?_⟩
  obtain rfl := Json.string.inj hother
  obtain rfl : encoded = found := Option.some.inj (h.symm.trans hfound)
  exact hplain

theorem Plain.of_not_takesJson (h : ¬TakesJson schema attr)
    (hplain : value.somewhere isExtended = false) : Plain schema attr value :=
  ⟨hplain, fun hjson => absurd hjson h⟩

theorem generic_of_storedValue (hplain : Plain schema attr value)
    (h : storedValue schema options attr value = .ok stored) :
    Coercion.generic stored = returned schema attr value := by
  rw [storedValue_eq_ok_iff] at h
  obtain ⟨rfl, -⟩ := h
  -- the value converts once its large integers are text, and that makes no object extended JSON
  have hgeneric := Coercion.generic_of_ofGeneric?
    (Coercion.somewhere_isExtended_bigAsText hplain.meant)
    (Coercion.ofGeneric?_bigAsText (meant schema attr value))
  unfold expected returned
  split
  · rw [Coercion.generic_identifier, hgeneric]
  · exact hgeneric

/-! ### Fields -/

/-- Whether an attribute is written at all: a null key is left to the store. -/
def IsWritten (schema : ModelSchema) (attr : String) (value : Json) : Prop :=
  attr = schema.primaryKey → value.isNull = false

instance : Decidable (IsWritten schema attr value) := inferInstanceAs (Decidable (_ → _))

theorem ne_null_of_isWritten (h : IsWritten schema schema.primaryKey value) : value ≠ .null := by
  rintro rfl
  exact absurd (h rfl) nofun

/-- What stands in a document before the attributes are added is the key, under its own name. -/
theorem of_get?_keyDocument (h : keyDocument schema options record = .ok document)
    (hget : Fields.get? name document = some stored) :
    ∃ id, Fields.get? schema.primaryKey record = some id ∧
      IsWritten schema schema.primaryKey id ∧ options.nativeKey = name ∧
        storedValue schema options schema.primaryKey id = .ok stored := by
  unfold keyDocument at h
  split at h
  · cases h
    cases hget
  · cases h
    cases hget
  · next id hnull hid =>
    simp only [Except.bind_eq_ok_iff, Except.pure_eq_ok_iff] at h
    obtain ⟨key, hkey, rfl⟩ := h
    rw [Fields.get?_cons] at hget
    split at hget
    · next hname =>
      obtain rfl := Option.some.inj hget
      refine ⟨id, hid, fun _ => ?_, hname, by rw [storedValue, if_pos rfl, hkey]⟩
      cases id with
      | null => exact absurd rfl hnull
      | _ => rfl
    · cases hget

theorem mem_write_iff (hrecord : Fields.WellFormed record)
    (hnames : options.nativeKey ∈ Fields.keys record → options.nativeKey = schema.primaryKey)
    (h : write schema options record = .ok document) :
    (name, stored) ∈ document ↔ ∃ attr value, (attr, value) ∈ record ∧
      IsWritten schema attr value ∧ Filter.nativeField schema options attr = name ∧
        storedValue schema options attr value = .ok stored := by
  have hwritten := written_of_write hrecord hnames h
  rw [← Fields.get?_eq_some_iff hwritten.wellFormed]
  constructor
  · intro hget
    simp only [write, Except.bind_eq_ok_iff] at h
    obtain ⟨keyed, hkeyed, hdocument⟩ := h
    by_cases hattribute : name ∈ Fields.keys (Fields.swapErase schema.primaryKey record)
    · obtain ⟨⟨attr, value⟩, hfield, rfl⟩ := List.mem_map.mp hattribute
      obtain ⟨hmem, hne⟩ := (Fields.mem_swapErase_iff hrecord).mp hfield
      obtain ⟨converted, hconverted, hfound⟩ := hwritten.of_attribute attr value hmem hne
      obtain rfl : stored = converted := Option.some.inj (hget.symm.trans hfound)
      refine ⟨attr, value, hmem, fun heq => absurd heq hne, Filter.nativeField_of_ne hne, ?_⟩
      rw [storedValue, if_neg hne, hconverted]
    · -- what no attribute has written was there before them
      rw [get?_addAttributes_of_not_mem hattribute hdocument] at hget
      obtain ⟨id, hid, hnull, rfl, hstored⟩ := of_get?_keyDocument hkeyed hget
      exact ⟨schema.primaryKey, id, (Fields.get?_eq_some_iff hrecord).mp hid, hnull,
        Filter.nativeField_primaryKey, hstored⟩
  · rintro ⟨attr, value, hmem, hnull, rfl, hstored⟩
    by_cases hkey : attr = schema.primaryKey
    · subst hkey
      obtain ⟨key, hconverted, hfound⟩ :=
        hwritten.of_key value hmem (ne_null_of_isWritten hnull)
      rw [storedValue, if_pos rfl, hconverted] at hstored
      rw [Filter.nativeField_primaryKey, hfound, Except.ok.inj hstored]
    · obtain ⟨converted, hconverted, hfound⟩ := hwritten.of_attribute attr value hmem hkey
      rw [storedValue, if_neg hkey, hconverted] at hstored
      rw [Filter.nativeField_of_ne hkey, hfound, Except.ok.inj hstored]

/-! ### Reading -/

theorem attributeOf_nativeField (h : attr = options.nativeKey → attr = schema.primaryKey) :
    attributeOf schema options (Filter.nativeField schema options attr) = attr := by
  by_cases hkey : attr = schema.primaryKey
  · rw [hkey, Filter.nativeField_primaryKey, attributeOf, if_pos rfl]
  · rw [Filter.nativeField_of_ne hkey, attributeOf, if_neg fun heq => hkey (h heq)]

theorem attributeOf_of_mem
    (hnames : options.nativeKey ∈ Fields.keys record → options.nativeKey = schema.primaryKey)
    (hmem : (attr, value) ∈ record) :
    attributeOf schema options (Filter.nativeField schema options attr) = attr := by
  apply attributeOf_nativeField
  rintro rfl
  exact hnames (Fields.mem_keys_of_mem hmem)

theorem nativeField_attributeOf (h : name ≠ options.nativeKey → name ≠ schema.primaryKey) :
    Filter.nativeField schema options (attributeOf schema options name) = name := by
  unfold attributeOf
  split
  · next heq => rw [Filter.nativeField_primaryKey, heq]
  · next hne => exact Filter.nativeField_of_ne (h hne)

theorem read_eq_map (hwritten : Written schema options record document) :
    read schema options document =
      document.map fun field => (attributeOf schema options field.1, Coercion.generic field.2) := by
  refine Fields.ofList_eq_self ?_
  have hkeys : Fields.keys (document.map fun field =>
      (attributeOf schema options field.1, Coercion.generic field.2)) =
        (Fields.keys document).map (attributeOf schema options) := by
    simp [Fields.keys, Function.comp_def]
  show (Fields.keys _).Nodup
  rw [hkeys]
  refine List.Nodup.map_on ?_ hwritten.wellFormed
  intro name hname other hother heq
  rw [← nativeField_attributeOf (hwritten.ne_key name hname), heq,
    nativeField_attributeOf (hwritten.ne_key other hother)]

theorem exists_storedValue_of_write (hrecord : Fields.WellFormed record)
    (h : write schema options record = .ok document) (hmem : (attr, value) ∈ record) :
    ∃ stored, storedValue schema options attr value = .ok stored :=
  exists_storedValue_iff.mpr fun hstrict =>
    (exists_write_iff hrecord).mp ⟨document, h⟩ hstrict attr value hmem

theorem mem_read_iff (hrecord : Returnable schema options record)
    (h : write schema options record = .ok document) :
    (attr, value) ∈ read schema options document ↔ ∃ given, (attr, given) ∈ record ∧
      IsWritten schema attr given ∧ returned schema attr given = value := by
  have hfields {name : String} {stored : Native} :=
    @mem_write_iff schema options record document name stored hrecord.wellFormed hrecord.names h
  rw [read_eq_map (written_of_write hrecord.wellFormed hrecord.names h)]
  simp only [List.mem_map, Prod.exists, Prod.mk.injEq]
  constructor
  · rintro ⟨name, stored, hfield, rfl, rfl⟩
    obtain ⟨attr, given, hmem, hwritten, rfl, hstored⟩ := hfields.mp hfield
    have hgeneric := generic_of_storedValue (hrecord.plain attr given hmem) hstored
    rw [attributeOf_of_mem hrecord.names hmem]
    exact ⟨given, hmem, hwritten, hgeneric.symm⟩
  · rintro ⟨given, hmem, hwritten, rfl⟩
    obtain ⟨stored, hstored⟩ := exists_storedValue_of_write hrecord.wellFormed h hmem
    have hgeneric := generic_of_storedValue (hrecord.plain attr given hmem) hstored
    exact ⟨Filter.nativeField schema options attr, stored,
      hfields.mpr ⟨attr, given, hmem, hwritten, rfl, hstored⟩,
      attributeOf_of_mem hrecord.names hmem, hgeneric⟩

def returnedRecord (schema : ModelSchema) (record : Record) : Record :=
  (record.filter fun (attr, value) => decide (IsWritten schema attr value)).map
    fun (attr, value) => (attr, returned schema attr value)

theorem wellFormed_returnedRecord (hrecord : Fields.WellFormed record) :
    Fields.WellFormed (returnedRecord schema record) := by
  have hkeys : Fields.keys (returnedRecord schema record) =
      Fields.keys (record.filter fun (attr, value) => decide (IsWritten schema attr value)) := by
    simp [returnedRecord, Fields.keys, Function.comp_def]
  show (Fields.keys _).Nodup
  rw [hkeys]
  exact hrecord.sublist (List.filter_sublist.map _)

theorem mem_returnedRecord_iff : (attr, value) ∈ returnedRecord schema record ↔
    ∃ given, (attr, given) ∈ record ∧ IsWritten schema attr given ∧
      returned schema attr given = value := by
  simp [returnedRecord, and_assoc]

/-- Under the permissive policy every record is written, and it is returned. An identifier is in
lower case then, text for a structured attribute is the value that it encodes, and integers beyond
the signed range are text. -/
theorem read_write_perm (hrecord : Returnable schema options record)
    (hpolicy : options.coercion = .permissive) :
    ∃ document, write schema options record = .ok document ∧
      (read schema options document).Perm (returnedRecord schema record) := by
  have hlenient : options.coercion = .strict →
      ∀ attr value, (attr, value) ∈ record → ¬Refused schema attr value := by
    intro hstrict
    rw [hpolicy] at hstrict
    cases hstrict
  obtain ⟨document, hdocument⟩ := (exists_write_iff hrecord.wellFormed).mpr hlenient
  refine ⟨document, hdocument, ?_⟩
  have hread : Fields.WellFormed (read schema options document) := Fields.keys_nodup_ofList _
  -- no name repeats on either side, so that having the same fields is enough
  rw [List.perm_ext_iff_of_nodup (Fields.nodup_of_wellFormed hread)
    (Fields.nodup_of_wellFormed (wellFormed_returnedRecord hrecord.wellFormed)), Prod.forall]
  intro attr value
  rw [mem_read_iff hrecord hdocument, mem_returnedRecord_iff]

/-- An identifier, encoded JSON and a large integer, all of them returned. -/
theorem read_write_perm_pet :
    let schema : ModelSchema := .declare .empty "settings" .json
    let record : Record := [("settings", .string "[1]"),
      ("id", .string "507F1F77BCF86CD799439011"),
      ("age", .array [.number (.big 0x8000000000000000 (by decide))])]
    ∃ document, write schema .default record = .ok document ∧
      (read schema .default document).Perm [("settings", .array [.number (.int 1)]),
        ("id", .string "507f1f77bcf86cd799439011"),
        ("age", .array [.string "9223372036854775808"])] := by
  intro schema record
  have hrecord : Fields.WellFormed record := by
    simp [record, Fields.WellFormed, Fields.keys]
  have hnames : TranslateOptions.default.nativeKey ∈ Fields.keys record →
      TranslateOptions.default.nativeKey = schema.primaryKey :=
    fun hmem => absurd hmem (by decide)
  have hencoded : Json.parse? "[1]" = some (.array [.number (.int 1)]) := rfl
  have hplain : ∀ attr value, (attr, value) ∈ record → Plain schema attr value := by
    intro attr value hmem
    simp only [record, List.mem_cons, Prod.mk.injEq, List.not_mem_nil, or_false] at hmem
    obtain ⟨rfl, rfl⟩ | ⟨rfl, rfl⟩ | ⟨rfl, rfl⟩ := hmem
    · exact .of_parse? hencoded rfl
    · exact .of_not_takesJson (by decide) rfl
    · exact .of_not_takesJson (by decide) rfl
  exact read_write_perm ⟨hrecord, hnames, hplain⟩ rfl

/-- The text of a primary key stays text, also where the key is declared to hold JSON. -/
theorem key_stays_text :
    let schema : ModelSchema := .declare .empty "id" .json
    let value : Json := .array [.number (.int 1)]
    schema.attributeType? "id" = some .json ∧ Json.Encodes "[1]" value ∧
      value.somewhere isExtended = false ∧
      ¬∃ document, write schema .default [("id", .string "[1]")] = .ok document ∧
        Fields.get? "id" (read schema .default document) = some value := by
  refine ⟨rfl, ⟨rfl, rfl⟩, rfl, ?_⟩
  rintro ⟨document, hdocument, hread⟩
  obtain rfl := Except.ok.inj hdocument
  have hkept : Fields.get? "id" (read (.declare .empty "id" .json) .default
      [("_id", .string "[1]")]) = some (.string "[1]") := rfl
  cases hkept.symm.trans hread

end StageThree.Record
