import StageThree.Native.Basic
import StageThree.Base64
import StageThree.Calendar
import StageThree.Double.Text

/-!
Native values as messages show them. Strings stand in quotes as they are, numbers have neither
width nor exponent, and the other types name themselves.
-/

namespace StageThree.Native

def inQuotes (s : String) : String := "\"" ++ s ++ "\""

/-- The lowercase hexadecimal digits of a byte, without a leading zero. -/
def shortHex (b : UInt8) : String := String.ofList (Nat.toDigits 16 b.toNat)

/-- A date as its calendar text, or as its milliseconds when the year has more than six digits. -/
def displayDate (millis : Int64) : String :=
  let moment := Calendar.ofMillis millis.toInt
  if 999999 < moment.date.year.natAbs then toString millis.toInt else moment.display

def displayScalar : Native → String
  | .null => "null"
  | .undefined => "undefined"
  | .minKey => "MinKey"
  | .maxKey => "MaxKey"
  | .bool b => if b then "true" else "false"
  | .int32 n => toString n.toInt
  | .int64 n => toString n.toInt
  | .double x => x.display
  | .decimal d => d.render
  | .string s => inQuotes s
  | .symbol s => "Symbol(" ++ inQuotes s ++ ")"
  | .code text => text
  | .scopedCode text _ => text
  | .objectId id => "ObjectId(" ++ inQuotes id.toHex ++ ")"
  | .dateTime millis => "DateTime(" ++ inQuotes (displayDate millis) ++ ")"
  | .timestamp time increment =>
    "Timestamp(" ++ toString time.toNat ++ ", " ++ toString increment.toNat ++ ")"
  | .binary subtype bytes => "Binary(0x" ++ shortHex subtype ++ ", " ++ Base64.encode bytes ++ ")"
  | .regex pattern options => "/" ++ pattern ++ "/" ++ options
  | .pointer collection id => "DbPointer(" ++ collection ++ ", " ++ id.toHex ++ ")"
  | .array _ => "[]"
  | .document _ => "\x7b\x7d"

mutual

def display : Native → String
  | .array items => "[" ++ ", ".intercalate (displayItems items) ++ "]"
  | .document fields =>
    if fields.isEmpty then "\x7b\x7d"
    else "\x7b " ++ ", ".intercalate (displayFields fields) ++ " \x7d"
  | value => displayScalar value

def displayItems : List Native → List String
  | [] => []
  | item :: rest => display item :: displayItems rest

def displayFields : List (String × Native) → List String
  | [] => []
  | (name, value) :: rest => (inQuotes name ++ ": " ++ display value) :: displayFields rest

end

end StageThree.Native
