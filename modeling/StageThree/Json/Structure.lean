import StageThree.Json.Basic
import StageThree.Reader

/-!
Reading structures and enumerations out of generic values. A structure is an object, whose unknown
fields are ignored, or an array of its fields in order of declaration, of which trailing ones may
be missing. A variant without contents is its name, or an object that gives the name no contents.
-/

namespace StageThree.Json

def count (name : String) (fields : Fields Json) : Nat :=
  (fields.filter fun field => field.1 = name).length

/-- The values given to the fields of a structure, in order of `names`. -/
def slots? (names : List String) : Json → Option (List (Option Json))
  | .object fields =>
    if names.any fun name => 1 < count name fields then none
    else some (names.map fun name => Fields.get? name fields)
  | .array items =>
    if names.length < items.length then none
    else some (items.map some ++ List.replicate (names.length - items.length) none)
  | _ => none

def variantName? : Json → Option String
  | .string name => some name
  | .object [(name, .null)] => some name
  | _ => none

/-- A variant with contents: the only field of an object. -/
def variant? : Json → Option (String × Json)
  | .object [(name, contents)] => some (name, contents)
  | _ => none

def optionalText? : Json → Option (Option String)
  | .null => some none
  | value => value.asString?.map some

def reader : Reader Json := ⟨slots?, asString?, optionalText?, asBool?, variantName?⟩

end StageThree.Json
