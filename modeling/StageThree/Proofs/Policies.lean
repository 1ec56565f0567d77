import StageThree.Proofs.Conversion
import StageThree.Proofs.Writing

/-!
What the policy decides. Either policy stores a value in the same form, if it stores it at all.
The permissive one stores every record; the strict one refuses a record for an integer beyond the
signed range, or for a structured attribute whose text is not that of a value that converts.
-/

namespace StageThree

open Json (isBig)

def TranslateOptions.under (options : TranslateOptions) (policy : CoercionPolicy) :
    TranslateOptions :=
  { options with coercion := policy }

/-! ### Encoded values -/

namespace Json

/-- Whether a text is JSON for a value without integers beyond the signed range. -/
def Encodes (text : String) (value : Json) : Prop :=
  parse? text = some value ∧ value.somewhere isBig = false

/-- Text that encodes a value stands for that value, everything else for itself. -/
def decoded : Json → Json
  | .string text =>
    match parse? text with
    | some value => if value.somewhere isBig then .string text else value
    | none => .string text
  | value => value

variable {text : String} {value : Json}

theorem decoded_eq_self (h : ∀ text, value ≠ .string text) : value.decoded = value := by
  cases value with
  | string text => exact absurd rfl (h text)
  | _ => rfl

theorem decoded_of_encodes (h : Encodes text value) : decoded (.string text) = value := by
  simp [decoded, h.1, h.2]

/-- Text encodes nothing if it is no JSON, or holds an integer beyond the range. -/
theorem not_encodes_iff :
    (∀ value, ¬Encodes text value) ↔ (parse? text).all (somewhere isBig) = true := by
  cases h : parse? text <;> simp [Encodes, h]

theorem decoded_of_not_encodes (h : ∀ value, ¬Encodes text value) :
    decoded (.string text) = .string text := by
  rw [not_encodes_iff] at h
  cases hparse : parse? text with
  | none => simp [decoded, hparse]
  | some value =>
      rw [hparse, Option.all_some] at h
      simp [decoded, hparse, h]

end Json

/-! ### Values under a policy -/

namespace Coercion

variable {policy : CoercionPolicy} {attr text : String} {value : Json} {stored : Native}

theorem native_of_small (attr : String) (h : value.somewhere isBig = false) :
    native attr value = .ok (storable value) := by
  have hsame := ofGeneric?_bigAsText value
  rw [bigAsText_eq_self h] at hsame
  rw [native, hsame]

theorem native_of_big (attr : String) (h : value.somewhere isBig = true) :
    native attr value = .error (.invalidNative attr) := by
  have hnone : Native.ofGeneric? value = none := by
    rw [← Option.not_isSome_iff_eq_none, Native.ofGeneric?_isSome_iff, h]
    nofun
  rw [native, hnone]

/-- A value is stored with its large integers as text; the strict policy takes none of these. -/
theorem nativeUnder_eq_ok_iff :
    nativeUnder policy attr value = .ok stored ↔
      storable value = stored ∧ (policy = .strict → value.somewhere isBig = false) := by
  unfold nativeUnder
  cases hbig : value.somewhere isBig with
  | false => simp [native_of_small attr hbig]
  | true => cases policy <;> simp [native_of_big attr hbig]

theorem identifierUnder_eq_ok_iff :
    identifierUnder policy attr value = .ok stored ↔
      identifier (storable value) = stored ∧
        (policy = .strict → value.somewhere isBig = false) := by
  rw [identifierUnder, Except.map_eq_ok_iff]
  simp only [nativeUnder_eq_ok_iff, and_assoc, exists_eq_left']
  exact and_comm

/-- A structured value that is not text is converted as any other value. -/
theorem structuredUnder_eq_nativeUnder (policy : CoercionPolicy) (attr : String)
    (h : ∀ text, value ≠ .string text) :
    structuredUnder policy attr value = nativeUnder policy attr value := by
  have hstructured : structured attr value = native attr value := by
    cases value with
    | string text => exact absurd rfl (h text)
    | _ => rfl
  unfold structuredUnder nativeUnder
  rw [hstructured]
  cases hnative : native attr value with
  | ok => rfl
  | error => cases policy <;> rfl

/-- Text for a structured attribute is stored as the value that it encodes; if it encodes none it
stays text, unless the policy is strict. -/
theorem structuredUnder_string_eq_ok_iff :
    structuredUnder policy attr (.string text) = .ok stored ↔
      storable (Json.decoded (.string text)) = stored ∧
        (policy = .strict → ∃ value, Json.Encodes text value) := by
  by_cases hencodes : ∃ value, Json.Encodes text value
  · obtain ⟨value, hvalue⟩ := hencodes
    have hstructured : structured attr (.string text) = .ok (storable value) := by
      simp only [structured, hvalue.1]
      exact native_of_small attr hvalue.2
    have hsome : ∃ value, Json.Encodes text value := ⟨value, hvalue⟩
    simp [structuredUnder, hstructured, Json.decoded_of_encodes hvalue, hsome]
  · have hnone := not_exists.mp hencodes
    have hstructured : ∃ cause, structured attr (.string text) = .error cause := by
      have hbig := Json.not_encodes_iff.mp hnone
      cases hparse : Json.parse? text with
      | none => exact ⟨.invalidJson attr, by simp [structured, hparse]⟩
      | some value =>
          rw [hparse, Option.all_some] at hbig
          exact ⟨.invalidNative attr, by simpa [structured, hparse] using native_of_big attr hbig⟩
    obtain ⟨cause, hcause⟩ := hstructured
    rw [Json.decoded_of_not_encodes hnone]
    cases policy with
    | strict => simp [structuredUnder, hcause, hencodes]
    | permissive => simp [structuredUnder, hcause, nativeUnder_eq_ok_iff]

end Coercion

/-! ### Attributes -/

namespace Record

variable {schema : ModelSchema} {options : TranslateOptions} {record : Record} {attr : String}
  {value : Json} {stored : Native}

/-- The value of any attribute as it is stored; that of the primary key is an identifier. -/
def storedValue (schema : ModelSchema) (options : TranslateOptions) (attr : String)
    (value : Json) : Except CoercionError Native :=
  if attr = schema.primaryKey then Coercion.identifierUnder options.coercion attr value
  else nativeValue schema options attr value

/-- Whether the text of an attribute is taken for JSON. That of the primary key is not, whatever
is declared of it. -/
def TakesJson (schema : ModelSchema) (attr : String) : Prop :=
  attr ≠ schema.primaryKey ∧ schema.attributeType? attr = some .json

instance : Decidable (TakesJson schema attr) := inferInstanceAs (Decidable (_ ∧ _))

def meant (schema : ModelSchema) (attr : String) (value : Json) : Json :=
  if TakesJson schema attr then value.decoded else value

/-- Whether a value holds an integer beyond the signed range at any depth, or is text that is taken
for JSON and encodes no value without such an integer. -/
def Refused (schema : ModelSchema) (attr : String) (value : Json) : Prop :=
  value.somewhere isBig = true ∨
    TakesJson schema attr ∧ ∃ text, value = .string text ∧ ∀ encoded, ¬Json.Encodes text encoded

theorem storedValue_of_takesJson (options : TranslateOptions) (value : Json)
    (h : TakesJson schema attr) :
    storedValue schema options attr value =
      Coercion.structuredUnder options.coercion attr value := by
  rw [storedValue, if_neg h.1, nativeValue, h.2]

theorem storedValue_of_not_takesJson (options : TranslateOptions) (value : Json)
    (h : ¬TakesJson schema attr) :
    storedValue schema options attr value =
      if schema.holdsIdentifier attr then Coercion.identifierUnder options.coercion attr value
      else Coercion.nativeUnder options.coercion attr value := by
  unfold storedValue nativeValue ModelSchema.holdsIdentifier ModelSchema.isPrimaryKey
  by_cases hkey : attr = schema.primaryKey
  · simp [hkey]
  · have hjson : schema.attributeType? attr ≠ some .json := fun hjson => h ⟨hkey, hjson⟩
    simp only [hkey, Ne.symm hkey, if_false, decide_false, Bool.false_or, decide_eq_true_eq]
    split <;> simp_all

theorem refused_iff_of_not_takesJson (h : ¬TakesJson schema attr) :
    Refused schema attr value ↔ value.somewhere isBig = true := by
  simp [Refused, h]

theorem refused_string_iff (h : TakesJson schema attr) (text : String) :
    Refused schema attr (.string text) ↔ ∀ encoded, ¬Json.Encodes text encoded := by
  simp [Refused, h, Json.somewhere, isBig]

theorem refused_iff_of_not_string (h : ∀ text, value ≠ .string text) :
    Refused schema attr value ↔ value.somewhere isBig = true := by
  simp [Refused, h]

theorem holdsIdentifier_of_takesJson (h : TakesJson schema attr) :
    schema.holdsIdentifier attr = false := by
  simp [ModelSchema.holdsIdentifier, ModelSchema.isPrimaryKey, h.2, Ne.symm h.1]

theorem expected_of_takesJson (h : TakesJson schema attr) (plain : Native) :
    expected schema attr plain = plain := by
  rw [expected, holdsIdentifier_of_takesJson h, if_neg Bool.false_ne_true]

/-- What is stored for an attribute does not depend on the policy; whether it is stored does. -/
theorem storedValue_eq_ok_iff :
    storedValue schema options attr value = .ok stored ↔
      expected schema attr (Coercion.storable (meant schema attr value)) = stored ∧
        (options.coercion = .strict → ¬Refused schema attr value) := by
  by_cases hjson : TakesJson schema attr
  · rw [storedValue_of_takesJson options value hjson, meant, if_pos hjson,
      expected_of_takesJson hjson]
    by_cases htext : ∃ text, value = .string text
    · obtain ⟨text, rfl⟩ := htext
      rw [Coercion.structuredUnder_string_eq_ok_iff, refused_string_iff hjson, not_forall_not]
    · have htext := not_exists.mp htext
      rw [Coercion.structuredUnder_eq_nativeUnder _ _ htext, Coercion.nativeUnder_eq_ok_iff,
        refused_iff_of_not_string htext, Json.decoded_eq_self htext, Bool.not_eq_true]
  · rw [storedValue_of_not_takesJson options value hjson, refused_iff_of_not_takesJson hjson,
      Bool.not_eq_true, meant, if_neg hjson, expected]
    split
    · exact Coercion.identifierUnder_eq_ok_iff
    · exact Coercion.nativeUnder_eq_ok_iff

/-! ### Records -/

theorem exists_addAttributes_iff {document : Document} {attributes : Fields Json} :
    (∃ result, addAttributes schema options document attributes = .ok result) ↔
      ∀ field ∈ attributes, ∃ stored, nativeValue schema options field.1 field.2 = .ok stored := by
  induction attributes generalizing document with
  | nil => simp [addAttributes]
  | cons field rest ih =>
      obtain ⟨attr, value⟩ := field
      simp only [addAttributes, Except.bind_eq_ok_iff, List.forall_mem_cons]
      constructor
      · rintro ⟨result, stored, hstored, hrest⟩
        exact ⟨⟨stored, hstored⟩, ih.mp ⟨result, hrest⟩⟩
      · rintro ⟨⟨stored, hstored⟩, hrest⟩
        obtain ⟨result, hresult⟩ := ih.mpr hrest
        exact ⟨result, stored, hstored, hresult⟩

theorem exists_storedValue_iff :
    (∃ stored, storedValue schema options attr value = .ok stored) ↔
      (options.coercion = .strict → ¬Refused schema attr value) := by
  simp [storedValue_eq_ok_iff]

theorem not_refused_null (schema : ModelSchema) (attr : String) :
    ¬Refused schema attr .null := by
  simp [Refused, Json.somewhere, isBig]

theorem exists_keyDocument_iff :
    (∃ document, keyDocument schema options record = .ok document) ↔
      ∀ id, Fields.get? schema.primaryKey record = some id →
        options.coercion = .strict → ¬Refused schema schema.primaryKey id := by
  have hstored (id : Json) := @exists_storedValue_iff schema options schema.primaryKey id
  unfold keyDocument
  split
  · next hid => simp [hid]
  · next hid => simp [hid, not_refused_null]
  · next id _ hid =>
    simp only [storedValue, if_true] at hstored
    simp [hid, ← hstored]

/-- A record is written unless one of its values is refused and the policy is strict. -/
theorem exists_write_iff (hrecord : Fields.WellFormed record) :
    (∃ document, write schema options record = .ok document) ↔
      (options.coercion = .strict →
        ∀ attr value, (attr, value) ∈ record → ¬Refused schema attr value) := by
  have hattributes : (∀ field ∈ Fields.swapErase schema.primaryKey record,
      ∃ stored, nativeValue schema options field.1 field.2 = .ok stored) ↔
        ∀ attr value, (attr, value) ∈ record → attr ≠ schema.primaryKey →
          options.coercion = .strict → ¬Refused schema attr value := by
    rw [Prod.forall]
    refine forall₂_congr fun attr value => ?_
    rw [Fields.mem_swapErase_iff hrecord, and_imp]
    refine forall₂_congr fun _ hne => ?_
    rw [← exists_storedValue_iff, storedValue, if_neg hne]
  simp only [write, Except.bind_eq_ok_iff]
  constructor
  · rintro ⟨document, keyed, hkeyed, hdocument⟩ hstrict attr value hmem
    by_cases hkey : attr = schema.primaryKey
    · subst hkey
      exact exists_keyDocument_iff.mp ⟨keyed, hkeyed⟩ value
        ((Fields.get?_eq_some_iff hrecord).mpr hmem) hstrict
    · exact hattributes.mp (exists_addAttributes_iff.mp ⟨document, hdocument⟩) attr value hmem hkey
        hstrict
  · intro h
    obtain ⟨keyed, hkeyed⟩ := exists_keyDocument_iff.mpr fun id hid hstrict =>
      h hstrict _ id ((Fields.get?_eq_some_iff hrecord).mp hid)
    obtain ⟨document, hdocument⟩ := exists_addAttributes_iff.mpr
      (hattributes.mpr fun attr value hmem _ hstrict => h hstrict attr value hmem)
    exact ⟨document, keyed, hkeyed, hdocument⟩

theorem storedValue_permissive (h : storedValue schema options attr value = .ok stored) :
    storedValue schema (options.under .permissive) attr value = .ok stored := by
  rw [storedValue_eq_ok_iff] at *
  exact ⟨h.1, nofun⟩

theorem addAttributes_permissive {document result : Document} {attributes : Fields Json}
    (hkey : schema.primaryKey ∉ Fields.keys attributes)
    (h : addAttributes schema options document attributes = .ok result) :
    addAttributes schema (options.under .permissive) document attributes = .ok result := by
  induction attributes generalizing document with
  | nil => exact h
  | cons field rest ih =>
      obtain ⟨attr, value⟩ := field
      rw [Fields.keys, List.map_cons, List.mem_cons, not_or] at hkey
      simp only [addAttributes, Except.bind_eq_ok_iff] at h ⊢
      obtain ⟨stored, hstored, hrest⟩ := h
      have hpermissive := @storedValue_permissive schema options attr value stored
      simp only [storedValue, if_neg (Ne.symm hkey.1)] at hpermissive
      exact ⟨stored, hpermissive hstored, ih hkey.2 hrest⟩

theorem keyDocument_permissive {document : Document}
    (h : keyDocument schema options record = .ok document) :
    keyDocument schema (options.under .permissive) record = .ok document := by
  unfold keyDocument at *
  split at h
  · exact h
  · exact h
  · next id _ _ =>
    simp only [Except.bind_eq_ok_iff] at h ⊢
    obtain ⟨key, hkey, h⟩ := h
    have hpermissive := @storedValue_permissive schema options schema.primaryKey id key
    simp only [storedValue, if_true] at hpermissive
    exact ⟨key, hpermissive hkey, h⟩

theorem write_permissive {document : Document} (hrecord : Fields.WellFormed record)
    (h : write schema options record = .ok document) :
    write schema (options.under .permissive) record = .ok document := by
  simp only [write, Except.bind_eq_ok_iff] at h ⊢
  obtain ⟨keyed, hkeyed, hdocument⟩ := h
  have hkey : schema.primaryKey ∉ Fields.keys (Fields.swapErase schema.primaryKey record) := by
    intro hmem
    obtain ⟨⟨attr, value⟩, hfield, rfl⟩ := List.mem_map.mp hmem
    exact ((Fields.mem_swapErase_iff hrecord).mp hfield).2 rfl
  exact ⟨keyed, keyDocument_permissive hkeyed, addAttributes_permissive hkey hdocument⟩

/-- The permissive policy stores every record, and never the whole text of a value for want of a
better form. What the strict policy stores it stores alike; the strict policy fails just where a
value is refused, which a null key never is. -/
theorem permissive_extends_strict (hrecord : Fields.WellFormed record) :
    (∃ document, write schema (options.under .permissive) record = .ok document) ∧
    (∀ value, Native.ofGeneric? (Coercion.bigAsText value) = some (Coercion.storable value)) ∧
    (∀ document, write schema (options.under .strict) record = .ok document →
      write schema (options.under .permissive) record = .ok document) ∧
    ((∃ cause, write schema (options.under .strict) record = .error cause) ↔
      ∃ attr value, (attr, value) ∈ record ∧ Refused schema attr value) := by
  refine ⟨(exists_write_iff hrecord).mpr nofun, Coercion.ofGeneric?_bigAsText,
    fun document => write_permissive hrecord, ?_⟩
  rw [Except.exists_eq_error_iff, exists_write_iff hrecord]
  simp [TranslateOptions.under]

/-- An encoded integer beyond the signed range, in a record without a key. -/
theorem permissive_extends_strict_pet :
    let schema : ModelSchema := .declare .empty "limits" .json
    let record : Record := [("id", .null), ("limits", .string "[18446744073709551615]")]
    (∃ document, write schema .default record = .ok document) ∧
      ∃ cause, write schema (TranslateOptions.default.under .strict) record = .error cause := by
  intro schema record
  have hrecord : Fields.WellFormed record := by
    simp [record, Fields.WellFormed, Fields.keys]
  obtain ⟨hwritten, -, -, hrefused⟩ :=
    @permissive_extends_strict schema .default record hrecord
  have hlarge : ∀ encoded, ¬Json.Encodes "[18446744073709551615]" encoded :=
    Json.not_encodes_iff.mpr (by decide +kernel)
  refine ⟨hwritten, hrefused.mpr ⟨"limits", _, .tail _ (.head _), .inr ⟨?_, _, rfl, hlarge⟩⟩⟩
  decide

end Record

end StageThree
