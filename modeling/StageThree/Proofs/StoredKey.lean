import StageThree.Proofs.Writing

/-!
The key that a record is written with. The primary key goes in front, and nothing that is added
afterwards moves it; but an attribute that bears the store's name for keys replaces its value.
-/

namespace StageThree.Record

variable {schema : ModelSchema} {options : TranslateOptions} {record : Record}
  {document result : Document} {id : Json}

theorem front_of_addAttributes {name : String} {attributes : Fields Json}
    (hdocument : ∃ value rest, document = (name, value) :: rest)
    (h : addAttributes schema options document attributes = .ok result) :
    ∃ value rest, result = (name, value) :: rest := by
  induction attributes generalizing document with
  | nil =>
      obtain rfl : document = result := by simpa [addAttributes] using h
      exact hdocument
  | cons field others ih =>
      obtain ⟨attr, given⟩ := field
      simp only [addAttributes, Except.bind_eq_ok_iff] at h
      obtain ⟨converted, -, h⟩ := h
      obtain ⟨value, rest, rfl⟩ := hdocument
      refine ih ?_ h
      rw [Fields.insert]
      split
      · next heq => exact ⟨converted, rest, by rw [heq]⟩
      · exact ⟨value, _, rfl⟩

/-- A record with a key is written with a key in front. It is the record's, unless another
attribute goes by the name that keys have in the store: then it is what that attribute holds. -/
theorem key_of_write (hrecord : Fields.WellFormed record) (hid : (schema.primaryKey, id) ∈ record)
    (hnull : id ≠ .null) (h : write schema options record = .ok document) :
    ∃ key rest, document = (options.nativeKey, key) :: rest ∧
      if options.nativeKey ≠ schema.primaryKey ∧ options.nativeKey ∈ Fields.keys record then
        ∃ value, (options.nativeKey, value) ∈ record ∧
          nativeValue schema options options.nativeKey value = .ok key
      else Coercion.identifierUnder options.coercion schema.primaryKey id = .ok key := by
  simp only [write, Except.bind_eq_ok_iff] at h
  obtain ⟨keyed, hkeyed, h⟩ := h
  have hget : Fields.get? schema.primaryKey record = some id :=
    (Fields.get?_eq_some_iff hrecord).mpr hid
  obtain ⟨-, hvoid⟩ | ⟨other, given, hother, hgiven, rfl⟩ := keyDocument_cases hkeyed
  · exact absurd (hvoid id hget) hnull
  obtain rfl : id = other := Option.some.inj (hget.symm.trans hother)
  obtain ⟨key, rest, rfl⟩ := front_of_addAttributes ⟨given, [], rfl⟩ h
  have hfront : Fields.get? options.nativeKey ((options.nativeKey, key) :: rest) = some key :=
    if_pos rfl
  refine ⟨key, rest, rfl, ?_⟩
  split
  · next hclash =>
    obtain ⟨⟨name, value⟩, hfield, rfl⟩ := List.mem_map.mp hclash.2
    obtain ⟨converted, hconverted, hfound⟩ :=
      get?_addAttributes (Fields.wellFormed_swapErase hrecord)
        ((Fields.mem_swapErase_iff hrecord).mpr ⟨hfield, hclash.1⟩) h
    obtain rfl : key = converted := Option.some.inj (hfront.symm.trans hfound)
    exact ⟨value, hfield, hconverted⟩
  · next hclear =>
    have hfree : options.nativeKey ∉
        Fields.keys (Fields.swapErase schema.primaryKey record) := by
      intro hmem
      obtain ⟨⟨name, value⟩, hfield, rfl⟩ := List.mem_map.mp hmem
      obtain ⟨hfield, hne⟩ := (Fields.mem_swapErase_iff hrecord).mp hfield
      exact hclear ⟨hne, Fields.mem_keys_of_mem hfield⟩
    have hkept := get?_addAttributes_of_not_mem hfree h
    rw [hfront, Fields.get?_cons, if_pos rfl] at hkept
    rw [Option.some.inj hkept]
    exact hgiven

theorem key_of_write_rex :
    let hex : Json := .string "507F1F77BCF86CD799439011"
    (∃ key rest, write .empty .default [("name", .string "Rex"), ("id", hex)] =
        .ok (("_id", key) :: rest) ∧
      Coercion.identifierUnder .permissive "id" hex = .ok key) ∧
    ∃ key rest, write .empty .default [("_id", .string "Rex"), ("id", hex)] =
        .ok (("_id", key) :: rest) ∧
      ∃ value, ("_id", value) ∈ [("_id", .string "Rex"), ("id", hex)] ∧
        nativeValue .empty .default "_id" value = .ok key := by
  intro hex
  have hplain : Fields.WellFormed [("name", Json.string "Rex"), ("id", hex)] := by
    simp [Fields.WellFormed, Fields.keys]
  have hclash : Fields.WellFormed [("_id", Json.string "Rex"), ("id", hex)] := by
    simp [Fields.WellFormed, Fields.keys]
  obtain ⟨key, rest, hdocument, hkey⟩ :=
    @key_of_write .empty .default _ _ hex hplain (.tail _ (.head _)) (by simp [hex]) rfl
  obtain ⟨other, others, hother, hvalue⟩ :=
    @key_of_write .empty .default _ _ hex hclash (.tail _ (.head _)) (by simp [hex]) rfl
  exact ⟨⟨key, rest, congrArg Except.ok hdocument, hkey⟩,
    ⟨other, others, congrArg Except.ok hother, hvalue⟩⟩

/-- The record is stored under another key than its own. -/
theorem key_lost_of_write :
    ∃ document, write .empty .default [("id", .string "rex"), ("_id", .string "tom")] =
        .ok document ∧
      ¬∃ key rest, document = ("_id", key) :: rest ∧
        Coercion.identifierUnder .permissive "id" (.string "rex") = .ok key := by
  refine ⟨[("_id", .string "tom")], rfl, ?_⟩
  rintro ⟨key, rest, hdocument, hkey⟩
  have hgiven : Coercion.identifierUnder .permissive "id" (.string "rex") =
      .ok (.string "rex") := rfl
  rw [hgiven] at hkey
  cases hkey
  simp at hdocument

end StageThree.Record
