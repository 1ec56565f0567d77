import StageThree.Record
import StageThree.Proofs.ScalarValues

/-!
What a written record holds. The primary key stands under the name that the store gives to keys,
every other attribute under its own, and a filter converts the operand on an attribute as writing
converts the attribute's value.
-/

namespace StageThree

namespace Record

variable {schema : ModelSchema} {options : TranslateOptions} {record : Record}
  {document result : Document} {attributes : Fields Json}

/-! ### Attributes -/

/-- Attributes change no field of another name. -/
theorem get?_addAttributes_of_not_mem {name : String} (hname : name ∉ Fields.keys attributes)
    (h : addAttributes schema options document attributes = .ok result) :
    Fields.get? name result = Fields.get? name document := by
  induction attributes generalizing document with
  | nil =>
      obtain rfl : document = result := by simpa [addAttributes] using h
      rfl
  | cons field rest ih =>
      obtain ⟨attr, value⟩ := field
      rw [Fields.keys, List.map_cons, List.mem_cons, not_or] at hname
      simp only [addAttributes, Except.bind_eq_ok_iff] at h
      obtain ⟨converted, -, h⟩ := h
      rw [ih hname.2 h, Fields.get?_insert_of_ne (Ne.symm hname.1)]

theorem get?_addAttributes {attr : String} {value : Json}
    (hattributes : Fields.WellFormed attributes) (hmem : (attr, value) ∈ attributes)
    (h : addAttributes schema options document attributes = .ok result) :
    ∃ converted, nativeValue schema options attr value = .ok converted ∧
      Fields.get? attr result = some converted := by
  induction attributes generalizing document with
  | nil => cases hmem
  | cons field rest ih =>
      obtain ⟨other, first⟩ := field
      obtain ⟨hother, hrest⟩ := Fields.wellFormed_cons.mp hattributes
      simp only [addAttributes, Except.bind_eq_ok_iff] at h
      obtain ⟨converted, hconverted, h⟩ := h
      rcases List.mem_cons.mp hmem with heq | hmem
      · cases heq
        refine ⟨converted, hconverted, ?_⟩
        rw [get?_addAttributes_of_not_mem hother h, Fields.get?_insert_self]
      · exact ih hrest hmem h

theorem wellFormed_addAttributes (hdocument : Fields.WellFormed document)
    (h : addAttributes schema options document attributes = .ok result) :
    Fields.WellFormed result := by
  induction attributes generalizing document with
  | nil =>
      obtain rfl : document = result := by simpa [addAttributes] using h
      exact hdocument
  | cons field rest ih =>
      obtain ⟨attr, value⟩ := field
      simp only [addAttributes, Except.bind_eq_ok_iff] at h
      obtain ⟨converted, -, h⟩ := h
      exact ih (Fields.keys_nodup_insert attr converted hdocument) h

/-! ### Records -/

/-- The part of a document that holds the key is empty or the key alone. -/
theorem keyDocument_cases (h : keyDocument schema options record = .ok document) :
    (document = [] ∧ ∀ id, Fields.get? schema.primaryKey record = some id → id = .null) ∨
      ∃ id key, Fields.get? schema.primaryKey record = some id ∧
        Coercion.identifierUnder options.coercion schema.primaryKey id = .ok key ∧
        document = [(options.nativeKey, key)] := by
  unfold keyDocument at h
  split at h
  · next hid =>
    cases h
    exact .inl ⟨rfl, fun id heq => by rw [hid] at heq; cases heq⟩
  · next hid =>
    cases h
    exact .inl ⟨rfl, fun id heq => by rw [hid] at heq; cases heq; rfl⟩
  · next id _ hid =>
    simp only [Except.bind_eq_ok_iff, Except.pure_eq_ok_iff] at h
    obtain ⟨key, hkey, rfl⟩ := h
    exact .inr ⟨id, key, hid, hkey, rfl⟩

/-- What is known of the document that a record is written as. -/
structure Written (schema : ModelSchema) (options : TranslateOptions) (record : Record)
    (document : Document) : Prop where
  wellFormed : Fields.WellFormed document
  key_eq : ∀ key, Fields.get? options.nativeKey document = some key →
    ∃ id, Coercion.identifierUnder options.coercion schema.primaryKey id = .ok key
  of_key : ∀ id, (schema.primaryKey, id) ∈ record → id ≠ .null →
    ∃ key, Coercion.identifierUnder options.coercion schema.primaryKey id = .ok key ∧
      Fields.get? options.nativeKey document = some key
  of_attribute : ∀ attr value, (attr, value) ∈ record → attr ≠ schema.primaryKey →
    ∃ converted, nativeValue schema options attr value = .ok converted ∧
      Fields.get? attr document = some converted
  ne_key : ∀ name ∈ Fields.keys document, name ≠ options.nativeKey → name ≠ schema.primaryKey

theorem written_of_write (hrecord : Fields.WellFormed record)
    (hnames : options.nativeKey ∈ Fields.keys record → options.nativeKey = schema.primaryKey)
    (h : write schema options record = .ok document) :
    Written schema options record document := by
  simp only [write, Except.bind_eq_ok_iff] at h
  obtain ⟨keyed, hkeyed, h⟩ := h
  have hattributes {attr : String} {value : Json} :
      (attr, value) ∈ Fields.swapErase schema.primaryKey record ↔
        (attr, value) ∈ record ∧ attr ≠ schema.primaryKey := Fields.mem_swapErase_iff hrecord
  have hfree : options.nativeKey ∉ Fields.keys (Fields.swapErase schema.primaryKey record) := by
    intro hmem
    obtain ⟨⟨attr, value⟩, hfield, rfl⟩ := List.mem_map.mp hmem
    obtain ⟨hfield, hne⟩ := hattributes.mp hfield
    exact hne (hnames (Fields.mem_keys_of_mem hfield))
  -- attributes are added after the key, and none of them replaces it
  have hkey : Fields.get? options.nativeKey document = Fields.get? options.nativeKey keyed :=
    get?_addAttributes_of_not_mem hfree h
  have hcases := keyDocument_cases hkeyed
  refine ⟨?wellFormed, ?key_eq, ?of_key, ?of_attribute, ?ne_key⟩
  case wellFormed =>
    refine wellFormed_addAttributes ?_ h
    obtain ⟨rfl, -⟩ | ⟨id, key, -, -, rfl⟩ := hcases
    · exact List.nodup_nil
    · simp [Fields.WellFormed, Fields.keys]
  case key_eq =>
    intro key hget
    rw [hkey] at hget
    obtain ⟨rfl, -⟩ | ⟨id, found, -, hfound, rfl⟩ := hcases
    · cases hget
    · rw [Fields.get?_cons, if_pos rfl] at hget
      cases hget
      exact ⟨id, hfound⟩
  case of_key =>
    intro id hmem hnull
    have hid := (Fields.get?_eq_some_iff hrecord).mpr hmem
    obtain ⟨-, hvoid⟩ | ⟨other, key, hother, hfound, rfl⟩ := hcases
    · exact absurd (hvoid id hid) hnull
    · obtain rfl : id = other := Option.some.inj (hid.symm.trans hother)
      refine ⟨key, hfound, ?_⟩
      rw [hkey, Fields.get?_cons, if_pos rfl]
  case of_attribute =>
    intro attr value hmem hne
    exact get?_addAttributes (Fields.wellFormed_swapErase hrecord) (hattributes.mpr ⟨hmem, hne⟩) h
  case ne_key =>
    rintro name hname hne rfl
    rw [Fields.mem_keys_iff] at hname
    -- the primary key is no attribute, so that the field would have been there before them
    have hprimary : schema.primaryKey ∉
        Fields.keys (Fields.swapErase schema.primaryKey record) := by
      intro hmem
      obtain ⟨⟨attr, value⟩, hfield, heq⟩ := List.mem_map.mp hmem
      exact (hattributes.mp hfield).2 heq
    rw [get?_addAttributes_of_not_mem hprimary h] at hname
    obtain ⟨rfl, -⟩ | ⟨id, key, -, -, rfl⟩ := hcases
    · cases hname
    · rw [Fields.get?_cons, if_neg (Ne.symm hne)] at hname
      cases hname

/-! ### Operands -/

/-- The native form of a value that converts, where an identifier is expected and elsewhere. -/
def expected (schema : ModelSchema) (attr : String) (plain : Native) : Native :=
  if schema.holdsIdentifier attr then Coercion.identifier plain else plain

variable {attr : String} {value : Json} {plain : Native}

theorem native_of_plain (attr : String) (h : Native.ofGeneric? value = some plain) :
    Coercion.native attr value = .ok plain := by
  rw [Coercion.native, h]

theorem nativeUnder_of_plain (policy : CoercionPolicy) (attr : String)
    (h : Native.ofGeneric? value = some plain) :
    Coercion.nativeUnder policy attr value = .ok plain := by
  unfold Coercion.nativeUnder
  rw [native_of_plain attr h]

theorem identifierUnder_of_plain (policy : CoercionPolicy) (attr : String)
    (h : Native.ofGeneric? value = some plain) :
    Coercion.identifierUnder policy attr value = .ok (Coercion.identifier plain) := by
  rw [Coercion.identifierUnder, nativeUnder_of_plain policy attr h]
  rfl

theorem nativeOperand_of_plain (attr : String) (h : Native.ofGeneric? value = some plain) :
    Filter.nativeOperand schema attr value = .ok (expected schema attr plain) := by
  unfold Filter.nativeOperand expected
  split
  · rw [Coercion.nativeIdentifier, native_of_plain attr h]
    rfl
  · exact native_of_plain attr h

theorem nativeValue_of_plain (hne : attr ≠ schema.primaryKey)
    (hjson : schema.attributeType? attr ≠ some .json)
    (h : Native.ofGeneric? value = some plain) :
    nativeValue schema options attr value = .ok (expected schema attr plain) := by
  have hprimary : schema.isPrimaryKey attr = false := by
    simpa [ModelSchema.isPrimaryKey] using Ne.symm hne
  unfold nativeValue expected ModelSchema.holdsIdentifier
  rw [hprimary]
  cases htype : schema.attributeType? attr with
  | none => exact nativeUnder_of_plain options.coercion attr h
  | some type =>
      cases type with
      | json => exact absurd htype hjson
      | ref => exact identifierUnder_of_plain options.coercion attr h
      | string | number | boolean => exact nativeUnder_of_plain options.coercion attr h

theorem expected_primaryKey (schema : ModelSchema) (plain : Native) :
    expected schema schema.primaryKey plain = Coercion.identifier plain := by
  simp [expected, ModelSchema.holdsIdentifier, ModelSchema.isPrimaryKey]

theorem equal_self_expected (schema : ModelSchema) (attr : String)
    (h : plain.equal plain = true) :
    (expected schema attr plain).equal (expected schema attr plain) = true := by
  unfold expected
  split
  · exact Coercion.equal_self_identifier h
  · exact h

/-! ### Reading -/

/-- The primary key of a record that is read is the key of its document. -/
theorem get?_read_primaryKey {id : Native} {rest : Document}
    (h : ∀ name ∈ Fields.keys rest, name ≠ options.nativeKey ∧ name ≠ schema.primaryKey) :
    Fields.get? schema.primaryKey (read schema options ((options.nativeKey, id) :: rest)) =
      some (Coercion.generic id) := by
  have hkey : attributeOf schema options options.nativeKey = schema.primaryKey := if_pos rfl
  rw [read, List.map_cons]
  dsimp only
  rw [hkey]
  refine Fields.get?_ofList_cons fun hmem => ?_
  simp only [Fields.keys, List.map_map, List.mem_map, Function.comp_apply] at hmem
  obtain ⟨field, hfield, heq⟩ := hmem
  obtain ⟨hne, hprimary⟩ := h field.1 (List.mem_map.mpr ⟨field, hfield, rfl⟩)
  rw [attributeOf, if_neg hne] at heq
  exact hprimary heq

end Record

end StageThree
