import Mathlib.Data.List.Perm.Subperm
import StageThree.Fields

/-!
Lists of named values as maps. Where no name repeats, what a lookup finds under a name is what
stands in the list with it.
-/

namespace StageThree.Fields

variable {α : Type} {name : String} {value : α} {fields others : Fields α}

theorem mem_of_get? (h : get? name fields = some value) : (name, value) ∈ fields := by
  induction fields with
  | nil => simp at h
  | cons field rest ih =>
      obtain ⟨key, old⟩ := field
      rw [get?_cons] at h
      split at h
      · next hkey =>
        cases h
        exact hkey ▸ List.mem_cons_self ..
      · exact .tail _ (ih h)

theorem wellFormed_cons {key : String} :
    WellFormed ((key, value) :: fields) ↔ key ∉ keys fields ∧ WellFormed fields := by
  simp [WellFormed, keys]

theorem mem_keys_of_mem (h : (name, value) ∈ fields) : name ∈ keys fields :=
  List.mem_map.mpr ⟨_, h, rfl⟩

theorem get?_eq_some_iff (h : WellFormed fields) :
    get? name fields = some value ↔ (name, value) ∈ fields := by
  refine ⟨mem_of_get?, fun hmem => ?_⟩
  induction fields with
  | nil => simp at hmem
  | cons field rest ih =>
      obtain ⟨key, old⟩ := field
      obtain ⟨hkey, hrest⟩ := wellFormed_cons.mp h
      rcases List.mem_cons.mp hmem with heq | hmem
      · cases heq
        rw [get?_cons, if_pos rfl]
      · have hne : key ≠ name := fun heq => hkey (heq ▸ mem_keys_of_mem hmem)
        rw [get?_cons, if_neg hne]
        exact ih hrest hmem

theorem eq_of_mem {other : α} (h : WellFormed fields) (hvalue : (name, value) ∈ fields)
    (hother : (name, other) ∈ fields) : value = other := by
  rw [← get?_eq_some_iff h] at hvalue hother
  exact Option.some.inj (hvalue.symm.trans hother)

/-- Fields that are as many as others, with names among theirs, have the same names. -/
theorem keys_perm_of_length (h : WellFormed fields) (hsubset : keys fields ⊆ keys others)
    (hlength : fields.length = others.length) : (keys fields).Perm (keys others) :=
  (List.subperm_of_subset h hsubset).perm_of_length_le (by simp [keys, hlength])

theorem keys_subset_of_length (h : WellFormed fields) (hsubset : keys fields ⊆ keys others)
    (hlength : fields.length = others.length) : keys others ⊆ keys fields :=
  (keys_perm_of_length h hsubset hlength).symm.subset

theorem wellFormed_of_length (h : WellFormed fields) (hsubset : keys fields ⊆ keys others)
    (hlength : fields.length = others.length) : WellFormed others :=
  (keys_perm_of_length h hsubset hlength).nodup_iff.mp h

theorem not_mem_keys_erase (h : WellFormed fields) : name ∉ keys (erase name fields) := by
  induction fields with
  | nil => simp [erase, keys]
  | cons field rest ih =>
      obtain ⟨key, value⟩ := field
      obtain ⟨hkey, hrest⟩ := wellFormed_cons.mp h
      simp only [erase]
      split
      · next heq => exact heq ▸ hkey
      · next hne =>
        rw [keys, List.map_cons, List.mem_cons, not_or]
        exact ⟨Ne.symm hne, ih hrest⟩

/-- Removal is that of the first field with the name. -/
theorem erase_eq_eraseP (name : String) (fields : Fields α) :
    erase name fields = fields.eraseP (·.1 = name) := by
  induction fields with
  | nil => rfl
  | cons field rest ih =>
      obtain ⟨key, value⟩ := field
      by_cases h : key = name <;> simp [erase, h, ih]

theorem get?_erase_of_ne {other : String} (h : name ≠ other) (fields : Fields α) :
    get? other (erase name fields) = get? other fields := by
  induction fields with
  | nil => rfl
  | cons field rest ih =>
      obtain ⟨key, value⟩ := field
      simp only [erase]
      split
      · next heq => rw [get?_cons, if_neg (heq ▸ h)]
      · rw [get?_cons, get?_cons, ih]

/-- A record loses the same field as a document, and differs in the order of the others. -/
theorem swapErase_perm (name : String) (fields : Fields α) :
    (swapErase name fields).Perm (erase name fields) := by
  induction fields with
  | nil => exact .nil
  | cons field rest ih =>
      obtain ⟨key, value⟩ := field
      simp only [swapErase, erase]
      split
      · cases hlast : rest.getLast? with
        | none => rw [List.getLast?_eq_none_iff.mp hlast]
        | some last =>
            have hrest : rest.dropLast ++ [last] = rest := List.dropLast_append_getLast? last hlast
            calc
              (last :: rest.dropLast).Perm (rest.dropLast ++ [last]) :=
                (List.perm_append_singleton last rest.dropLast).symm
              _ = rest := hrest
      · exact ih.cons _

theorem wellFormed_swapErase (h : WellFormed fields) : WellFormed (swapErase name fields) :=
  ((swapErase_perm name fields).map _).nodup_iff.mpr (keys_nodup_erase name h)

theorem mem_swapErase_iff (h : WellFormed fields) {other : String} :
    (other, value) ∈ swapErase name fields ↔ (other, value) ∈ fields ∧ other ≠ name := by
  rw [(swapErase_perm name fields).mem_iff]
  constructor
  · intro hmem
    refine ⟨(erase_sublist name fields).subset hmem, ?_⟩
    rintro rfl
    exact not_mem_keys_erase h (mem_keys_of_mem hmem)
  · rintro ⟨hmem, hne⟩
    rw [← get?_eq_some_iff (keys_nodup_erase name h), get?_erase_of_ne (Ne.symm hne)]
    exact (get?_eq_some_iff h).mpr hmem

/-! ### Lists of fields that are searched as a whole -/

theorem get?_append (name : String) (fields others : Fields α) :
    get? name (fields ++ others) = (get? name fields).or (get? name others) := by
  induction fields with
  | nil => rfl
  | cons field rest ih =>
      obtain ⟨key, first⟩ := field
      rw [List.cons_append, get?_cons, get?_cons, ih]
      split <;> rfl

theorem get?_insertAll (name : String) (fields added : Fields α) :
    get? name (insertAll fields added) = (get? name added.reverse).or (get? name fields) := by
  induction added generalizing fields with
  | nil => rfl
  | cons field rest ih =>
      obtain ⟨key, first⟩ := field
      show get? name (insertAll (insert key first fields) rest) = _
      rw [ih, List.reverse_cons, get?_append, Option.or_assoc, get?_cons, get?_nil]
      by_cases h : key = name
      · rw [if_pos h, h, get?_insert_self, Option.some_or]
      · rw [if_neg h, get?_insert_of_ne h, Option.none_or]

/-- Of the values that a name is given the last one counts. -/
theorem get?_ofList (name : String) (fields : Fields α) :
    get? name (ofList fields) = get? name fields.reverse := by
  rw [ofList, get?_insertAll, get?_nil, Option.or_none]

theorem get?_reverse (h : WellFormed fields) : get? name fields.reverse = get? name fields := by
  have hreverse : WellFormed fields.reverse :=
    ((List.reverse_perm fields).map _).nodup_iff.mpr h
  ext value
  rw [get?_eq_some_iff hreverse, get?_eq_some_iff h, List.mem_reverse]

theorem get?_eq_none_of_not_mem (h : name ∉ keys fields) : get? name fields = none := by
  rw [mem_keys_iff] at h
  simpa using h

/-- A field is found under its new name if no other field is given that name. -/
theorem get?_map_rename {β : Type} {rename : String → String} (f : α → β)
    (h : ∀ key ∈ keys fields, rename key = name ↔ key = name) :
    get? name (fields.map fun field => (rename field.1, f field.2)) =
      (get? name fields).map f := by
  induction fields with
  | nil => rfl
  | cons field rest ih =>
      obtain ⟨key, first⟩ := field
      rw [keys, List.map_cons, List.forall_mem_cons] at h
      rw [List.map_cons, get?_cons, get?_cons, ih h.2]
      by_cases hkey : key = name
      · rw [if_pos hkey, if_pos (h.1.mpr hkey)]
        rfl
      · rw [if_neg hkey, if_neg (mt h.1.mp hkey)]

/-- A field that is in front keeps its place and its value when no other has its name. -/
theorem get?_ofList_cons (h : name ∉ keys fields) :
    get? name (ofList ((name, value) :: fields)) = some value := by
  have hrest : name ∉ keys fields.reverse := by
    rwa [keys, List.map_reverse, List.mem_reverse]
  rw [get?_ofList, List.reverse_cons, get?_append, get?_eq_none_of_not_mem hrest, Option.none_or,
    get?_cons, if_pos rfl]

theorem nodup_of_wellFormed (h : WellFormed fields) : fields.Nodup :=
  List.Pairwise.of_map Prod.fst (fun _ _ hne heq => hne (congrArg Prod.fst heq)) h

/-- Fields whose names differ are all new when they are inserted. -/
theorem insertAll_eq_append (h : WellFormed (fields ++ others)) :
    insertAll fields others = fields ++ others := by
  induction others generalizing fields with
  | nil => exact (List.append_nil fields).symm
  | cons field rest ih =>
      obtain ⟨key, first⟩ := field
      rw [List.append_cons] at h ⊢
      have hnew : key ∉ keys fields := by
        intro hmem
        rw [WellFormed, keys, List.map_append, List.map_append] at h
        exact (List.nodup_append.mp (List.nodup_append.mp h).1).2.2 key hmem key
          (List.mem_singleton_self _) rfl
      rw [← ih h, ← insert_of_not_mem first hnew]
      rfl

theorem ofList_eq_self (h : WellFormed fields) : ofList fields = fields :=
  insertAll_eq_append h

end StageThree.Fields
