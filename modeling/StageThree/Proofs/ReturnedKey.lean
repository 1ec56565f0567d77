import StageThree.Record
import StageThree.Proofs.NamedFields

/-!
The key that a document is read with. The field that holds the store's key becomes the primary key
of the record, and every other field keeps its name. A field that has the name of the primary key
already takes the key's place if it stands after it.
-/

namespace StageThree.Record

variable {schema : ModelSchema} {options : TranslateOptions} {document before after : Document}
  {key value : Native} {name : String}

def attributes (schema : ModelSchema) (options : TranslateOptions) (document : Document) :
    Record :=
  document.map fun field => (attributeOf schema options field.1, Coercion.generic field.2)

/-- Of the fields that stand for an attribute the last one gives its value. -/
theorem get?_read (schema : ModelSchema) (options : TranslateOptions) (name : String)
    (document : Document) :
    Fields.get? name (read schema options document) =
      Fields.get? name (attributes schema options document.reverse) := by
  rw [attributes, List.map_reverse, ← Fields.get?_ofList]
  rfl

theorem attributeOf_nativeKey : attributeOf schema options options.nativeKey = schema.primaryKey :=
  if_pos rfl

theorem get?_attributes_of_not_mem (h : options.nativeKey ∉ Fields.keys document) :
    Fields.get? name (attributes schema options document) =
      (Fields.get? name document).map Coercion.generic := by
  apply Fields.get?_map_rename Coercion.generic
  intro other hother
  have hne : other ≠ options.nativeKey := by
    rintro rfl
    exact h hother
  rw [attributeOf, if_neg hne]

theorem get?_attributes_of_ne (hnative : name ≠ options.nativeKey)
    (hprimary : name ≠ schema.primaryKey) :
    Fields.get? name (attributes schema options document) =
      (Fields.get? name document).map Coercion.generic := by
  apply Fields.get?_map_rename Coercion.generic
  intro other _
  rw [attributeOf]
  split
  · next heq => exact iff_of_false (Ne.symm hprimary) (heq ▸ Ne.symm hnative)
  · rfl

/-- A document with the store's key in it, and fields before and after, is read with that key,
unless the name of the primary key is among the fields after it. -/
theorem get?_read_key
    (h : Fields.WellFormed (before ++ (options.nativeKey, key) :: after)) :
    Fields.get? schema.primaryKey
        (read schema options (before ++ (options.nativeKey, key) :: after)) =
      some (Coercion.generic ((Fields.get? schema.primaryKey after).getD key)) := by
  have hafter : options.nativeKey ∉ Fields.keys after ∧ Fields.WellFormed after := by
    rw [Fields.WellFormed, Fields.keys, List.map_append] at h
    exact Fields.wellFormed_cons.mp (List.nodup_append.mp h).2.1
  have hreverse : options.nativeKey ∉ Fields.keys after.reverse := by
    rw [Fields.keys, List.map_reverse, List.mem_reverse]
    exact hafter.1
  have hlater : Fields.get? schema.primaryKey (attributes schema options after.reverse) =
      (Fields.get? schema.primaryKey after).map Coercion.generic := by
    rw [get?_attributes_of_not_mem hreverse, Fields.get?_reverse hafter.2]
  have hkey : Fields.get? schema.primaryKey
      (attributes schema options ((options.nativeKey, key) :: before.reverse)) =
        some (Coercion.generic key) := by
    rw [attributes, List.map_cons, Fields.get?_cons, if_pos attributeOf_nativeKey]
  calc
    _ = Fields.get? schema.primaryKey (attributes schema options
          (after.reverse ++ (options.nativeKey, key) :: before.reverse)) := by
      rw [get?_read]
      simp
    _ = ((Fields.get? schema.primaryKey after).map Coercion.generic).or
          (some (Coercion.generic key)) := by
      rw [← hlater, ← hkey, ← Fields.get?_append, attributes, List.map_append]
      rfl
    _ = _ := by cases Fields.get? schema.primaryKey after <;> rfl

/-- A document is read with the store's key as the primary key of the record, unless a field of
the primary key's name stands after it: then with that field's value. Every other field is read
under its own name. -/
theorem identity_of_read (hdocument : Fields.WellFormed document) :
    (∀ before key after, document = before ++ (options.nativeKey, key) :: after →
      Fields.get? schema.primaryKey (read schema options document) =
        some (Coercion.generic ((Fields.get? schema.primaryKey after).getD key))) ∧
    ∀ name value, (name, value) ∈ document → name ≠ options.nativeKey →
      name ≠ schema.primaryKey →
      Fields.get? name (read schema options document) = some (Coercion.generic value) := by
  constructor
  · rintro before key after rfl
    exact get?_read_key hdocument
  · intro name value hmem hnative hprimary
    rw [get?_read, get?_attributes_of_ne hnative hprimary, Fields.get?_reverse hdocument,
      (Fields.get?_eq_some_iff hdocument).mpr hmem]
    rfl

/-- A key that stands after a field of the primary key's name, and one that stands before it. -/
theorem identity_of_read_rex :
    let key : Native := .objectId (.ofNat 0x507f1f77bcf86cd799439011)
    let hex : Json := .string "507f1f77bcf86cd799439011"
    let last : Document := [("id", .string "tom"), ("name", .string "Rex"), ("_id", key)]
    let first : Document := [("_id", key), ("name", .string "Rex"), ("id", .string "tom")]
    Fields.get? "id" (read .empty .default last) = some hex ∧
      Fields.get? "name" (read .empty .default last) = some (.string "Rex") ∧
      Fields.get? "id" (read .empty .default first) = some (.string "tom") := by
  intro key hex last first
  have hlast : Fields.WellFormed last := by simp [last, Fields.WellFormed, Fields.keys]
  have hfirst : Fields.WellFormed first := by simp [first, Fields.WellFormed, Fields.keys]
  obtain ⟨hkey, hname⟩ := @identity_of_read .empty .default last hlast
  obtain ⟨hother, -⟩ := @identity_of_read .empty .default first hfirst
  have hhex : Coercion.generic key = hex := rfl
  refine ⟨?_, hname "name" (.string "Rex") (.tail _ (.head _)) (by decide) (by decide), ?_⟩
  · rw [← hhex]
    exact hkey [("id", .string "tom"), ("name", .string "Rex")] key [] rfl
  · exact hother [] key [("name", .string "Rex"), ("id", .string "tom")] rfl

theorem key_lost_of_read :
    let document : Document := [("_id", .int32 1), ("id", .int32 2)]
    Fields.get? "_id" document = some (.int32 1) ∧
      Fields.get? "id" (read .empty .default document) ≠ some (Coercion.generic (.int32 1)) := by
  intro document
  have hread : Fields.get? "id" (read .empty .default document) = some (.int 2) := rfl
  have hkey : Coercion.generic (.int32 1) = .int 1 := rfl
  refine ⟨rfl, ?_⟩
  rw [hread, hkey]
  simp [Json.int]

end StageThree.Record
