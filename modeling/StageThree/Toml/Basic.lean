import StageThree.Fields
import StageThree.Reader
import StageThree.Double.Basic

/-!
The values of a TOML document, and how settings are read out of them.
-/

namespace StageThree

inductive Toml where
  | string (text : String)
  | integer (value : Int)
  | float (value : Double)
  | boolean (value : Bool)
  /-- A date, a time or both, as it is written. -/
  | moment (text : String)
  | array (items : List Toml)
  | table (fields : List (String × Toml))
  deriving Inhabited

namespace Toml

/-- The values of a structure. An array gives them by position and may have more; a moment is a
structure that has none of the fields. -/
def slots? (names : List String) : Toml → Option (List (Option Toml))
  | table fields => some (names.map fun name => Fields.get? name fields)
  | array items =>
    some (((items.map some) ++ List.replicate names.length none).take names.length)
  | moment _ => some (names.map fun _ => none)
  | _ => none

def asString? : Toml → Option String
  | string text => some text
  | _ => none

def asBool? : Toml → Option Bool
  | boolean value => some value
  | _ => none

/-- A variant without contents: its name, or a table that gives the name an empty collection. -/
def variantName? : Toml → Option String
  | string name => some name
  | table [(name, table [])] => some name
  | table [(name, array [])] => some name
  | _ => none

def reader : Reader Toml :=
  ⟨slots?, asString?, fun value => value.asString?.map some, asBool?, variantName?⟩

end Toml

end StageThree
