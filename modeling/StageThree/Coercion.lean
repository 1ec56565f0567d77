import StageThree.Native.Reading
import StageThree.Native.ExtendedJson
import StageThree.Json.Parser
import StageThree.Json.Printer
import StageThree.Options

/-!
Values on their way between the generic and the native side.

A text of 24 hexadecimal digits is an identifier wherever an identifier is expected; any other
value passes unchanged, so that the coercion of identifiers never fails and repeats without effect.
A generic value fails to convert only because of an integer beyond the signed range, a structured
value also because its text is not JSON. The policy decides what a failure means: strict reports
it, permissive stores the value in a form that converts.
-/

namespace StageThree

inductive CoercionError where
  | invalidJson (attr : String)
  | invalidNative (attr : String)
  deriving DecidableEq

namespace CoercionError

def message : CoercionError → String
  | .invalidJson attr => "Attribute `" ++ attr ++ "` holds invalid JSON text"
  | .invalidNative attr => "Attribute `" ++ attr ++ "` has no native encoding"

end CoercionError

namespace Coercion

/-! ### Towards the store -/

/-- Text in the shape of an identifier becomes the identifier. -/
def identifier : Native → Native
  | .string text =>
    if ObjectId.hasShape text then
      match ObjectId.ofHex? text with
      | some id => .objectId id
      | none => .string text
    else .string text
  | value => value

def native (attr : String) (value : Json) : Except CoercionError Native :=
  match Native.ofGeneric? value with
  | some converted => .ok converted
  | none => .error (.invalidNative attr)

def nativeIdentifier (attr : String) (value : Json) : Except CoercionError Native :=
  (native attr value).map identifier

mutual

/-- Integers beyond the signed range become their decimal text, at every depth. -/
def bigAsText : Json → Json
  | .number (.big n _) => .string (toString n.toNat)
  | .array items => .array (bigAsTextItems items)
  | .object fields => .object (bigAsTextFields fields)
  | value => value

def bigAsTextItems : List Json → List Json
  | [] => []
  | item :: rest => bigAsText item :: bigAsTextItems rest

def bigAsTextFields : List (String × Json) → List (String × Json)
  | [] => []
  | (name, value) :: rest => (name, bigAsText value) :: bigAsTextFields rest

end

/-- What is stored of a value that does not convert: the value with its large integers as text,
or failing that its whole JSON text. -/
def storable (value : Json) : Native :=
  (Native.ofGeneric? (bigAsText value)).getD (.string value.compress)

def nativeUnder (policy : CoercionPolicy) (attr : String) (value : Json) :
    Except CoercionError Native :=
  match native attr value, policy with
  | .ok converted, _ => .ok converted
  | .error e, .strict => .error e
  | .error _, .permissive => .ok (storable value)

def identifierUnder (policy : CoercionPolicy) (attr : String) (value : Json) :
    Except CoercionError Native :=
  (nativeUnder policy attr value).map identifier

/-- Text is read as JSON; a value that is structured already is converted as it is. -/
def structured (attr : String) : Json → Except CoercionError Native
  | .string text =>
    match Json.parse? text with
    | some value => native attr value
    | none => .error (.invalidJson attr)
  | value => native attr value

def structuredUnder (policy : CoercionPolicy) (attr : String) (value : Json) :
    Except CoercionError Native :=
  match structured attr value, policy with
  | .ok converted, _ => .ok converted
  | .error e, .strict => .error e
  | .error _, .permissive => nativeUnder .permissive attr value

/-! ### Back from the store -/

mutual

/-- The generic form of a native value: identifiers are their text at every depth of arrays and
documents, the other types are relaxed extended JSON. -/
def generic : Native → Json
  | .objectId id => .string id.toHex
  | .array items => .array (genericItems items)
  | .document fields => .object (genericFields fields)
  | value => value.relaxed

def genericItems : List Native → List Json
  | [] => []
  | item :: rest => generic item :: genericItems rest

def genericFields : List (String × Native) → List (String × Json)
  | [] => []
  | (name, value) :: rest => (name, generic value) :: genericFields rest

end

/-- Every text of the shape is read, so that the shape decides. -/
theorem identifier_string (text : String) :
    identifier (.string text) =
      ((ObjectId.ofHex? text).map Native.objectId).getD (.string text) := by
  rw [identifier, ← ObjectId.ofHex?_isSome]
  cases ObjectId.ofHex? text <;> rfl

theorem identifier_identifier (value : Native) :
    identifier (identifier value) = identifier value := by
  cases value with
  | string text =>
    rw [identifier_string]
    cases h : ObjectId.ofHex? text with
    | none => simp [identifier_string, h]
    | some id => rfl
  | _ => rfl

end Coercion

end StageThree
