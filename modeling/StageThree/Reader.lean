/-!
Settings come in several formats. A reader says how one format presents the shapes that settings
are made of; what the settings are is then said once, for all formats.
-/

namespace StageThree

structure Reader (α : Type) where
  /-- The values given to the fields of a structure, in the order of their names. -/
  slots? : List String → α → Option (List (Option α))
  text? : α → Option String
  /-- A text that may be left empty on purpose. -/
  optionalText? : α → Option (Option String)
  flag? : α → Option Bool
  variant? : α → Option String

/-- A field of a structure: `fallback` when it is absent, and otherwise what `read?` makes of it. -/
def slot? {α β : Type} (value : Option β) (fallback : Option α) (read? : β → Option α) :
    Option α :=
  match value with
  | none => fallback
  | some value => read? value

end StageThree
