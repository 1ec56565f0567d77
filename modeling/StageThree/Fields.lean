/-!
Records and documents are lists of named values whose order shows in every answer. An insertion
under a name that is present replaces the value where it stands; a new name goes to the end.
Records and documents differ in one operation only: a document closes the gap that a removed
field leaves, a record fills it with its last field.

No operation repeats a name that was not repeated before (`keys_nodup_insert`,
`keys_nodup_erase`).
-/

namespace StageThree

/-- Named values in order. A well-formed list names nothing twice (`Fields.WellFormed`). -/
abbrev Fields (α : Type) := List (String × α)

namespace Fields

variable {α : Type}

def keys (fields : Fields α) : List String := fields.map (·.1)

def WellFormed (fields : Fields α) : Prop := (keys fields).Nodup

def get? (name : String) : Fields α → Option α
  | [] => none
  | (key, value) :: rest => if key = name then some value else get? name rest

def contains (name : String) (fields : Fields α) : Bool := (get? name fields).isSome

/-- Replaces the value of `name` where it stands, or adds the field at the end. -/
def insert (name : String) (value : α) : Fields α → Fields α
  | [] => [(name, value)]
  | (key, old) :: rest =>
    if key = name then (name, value) :: rest else (key, old) :: insert name value rest

def erase (name : String) : Fields α → Fields α
  | [] => []
  | (key, value) :: rest => if key = name then rest else (key, value) :: erase name rest

/-- Removes the field called `name` and moves the last field into its place. -/
def swapErase (name : String) : Fields α → Fields α
  | [] => []
  | (key, value) :: rest =>
    if key = name then
      match rest.getLast? with
      | none => []
      | some last => last :: rest.dropLast
    else (key, value) :: swapErase name rest

def insertAll (fields added : Fields α) : Fields α :=
  added.foldl (fun fields field => insert field.1 field.2 fields) fields

/-- The fields left when repeated names keep their first place and their last value. -/
def ofList (fields : List (String × α)) : Fields α := insertAll [] fields

def sorted (fields : Fields α) : Fields α := fields.mergeSort fun a b => a.1 ≤ b.1

/-! ### What a lookup finds after an operation -/

@[simp] theorem get?_nil (name : String) : get? name ([] : Fields α) = none := rfl

theorem get?_cons (name key : String) (value : α) (rest : Fields α) :
    get? name ((key, value) :: rest) = if key = name then some value else get? name rest := rfl

@[simp] theorem get?_insert_self (name : String) (value : α) (fields : Fields α) :
    get? name (insert name value fields) = some value := by
  induction fields with
  | nil => simp [insert, get?]
  | cons field rest ih =>
    obtain ⟨key, old⟩ := field
    by_cases h : key = name <;> simp [insert, get?, h, ih]

theorem get?_insert_of_ne {name other : String} (h : name ≠ other) (value : α)
    (fields : Fields α) : get? other (insert name value fields) = get? other fields := by
  induction fields with
  | nil => simp [insert, get?, h]
  | cons field rest ih =>
    obtain ⟨key, old⟩ := field
    by_cases hk : key = name
    · subst hk; simp [insert, get?, h]
    · simp [insert, get?, hk, ih]

theorem mem_keys_iff {name : String} {fields : Fields α} :
    name ∈ keys fields ↔ (get? name fields).isSome := by
  induction fields with
  | nil => simp [keys]
  | cons field rest ih =>
    obtain ⟨key, value⟩ := field
    simp only [keys, List.map_cons, List.mem_cons] at ih ⊢
    by_cases h : key = name
    · subst h; simp [get?]
    · simp [get?, h, ih, Ne.symm h]

/-! ### Which names are left -/

theorem keys_insert_of_mem {name : String} {fields : Fields α} (value : α)
    (h : name ∈ keys fields) : keys (insert name value fields) = keys fields := by
  induction fields with
  | nil => simp [keys] at h
  | cons field rest ih =>
    obtain ⟨key, old⟩ := field
    by_cases hk : key = name
    · simp [insert, keys, hk]
    · have : name ∈ keys rest := by
        simpa [keys, Ne.symm hk] using h
      simpa [insert, keys, hk] using ih this

theorem insert_of_not_mem {name : String} {fields : Fields α} (value : α)
    (h : name ∉ keys fields) : insert name value fields = fields ++ [(name, value)] := by
  induction fields with
  | nil => rfl
  | cons field rest ih =>
    obtain ⟨key, old⟩ := field
    have hk : key ≠ name := fun hk => h (by simp [keys, hk])
    have hr : name ∉ keys rest := fun hr => h (by simp [keys] at hr ⊢; exact Or.inr hr)
    simp [insert, hk, ih hr]

theorem keys_nodup_insert {fields : Fields α} (name : String) (value : α)
    (h : WellFormed fields) : WellFormed (insert name value fields) := by
  unfold WellFormed at *
  by_cases hm : name ∈ keys fields
  · rw [keys_insert_of_mem value hm]; exact h
  · rw [insert_of_not_mem value hm]
    simp only [keys, List.map_append, List.map_cons, List.map_nil]
    exact List.nodup_append.2 ⟨h, by simp, by
      intro a ha b hb hab
      simp only [List.mem_singleton] at hb
      subst hb; subst hab
      exact hm ha⟩

theorem erase_sublist (name : String) (fields : Fields α) :
    List.Sublist (erase name fields) fields := by
  induction fields with
  | nil => exact List.Sublist.refl _
  | cons field rest ih =>
    obtain ⟨key, value⟩ := field
    by_cases h : key = name
    · simp [erase, h]
    · simpa [erase, h] using ih

theorem keys_nodup_erase {fields : Fields α} (name : String) (h : WellFormed fields) :
    WellFormed (erase name fields) :=
  List.Nodup.sublist ((erase_sublist name fields).map _) h

theorem keys_nodup_ofList (fields : List (String × α)) : WellFormed (ofList fields) := by
  suffices ∀ acc : Fields α, WellFormed acc → WellFormed (insertAll acc fields) from
    this [] List.nodup_nil
  unfold insertAll
  induction fields with
  | nil => exact fun _ h => h
  | cons field rest ih => exact fun acc h => ih _ (keys_nodup_insert _ _ h)

end Fields

end StageThree
