import StageThree.Native.Basic
import StageThree.Json.Basic
import StageThree.Base64
import StageThree.Calendar
import StageThree.Double.Text

/-!
Native values as extended JSON. A value without a plain counterpart is written as an object whose
name begins with a dollar sign. The canonical form wraps every number, so that the width is kept;
the relaxed form writes integers, finite doubles and the dates of common years plainly.
-/

namespace StageThree.Native

/-- An object with one field. -/
def wrap (name : String) (value : Json) : Json := .object [(name, value)]

def wrapText (name text : String) : Json := wrap name (.string text)

def hexByte (b : UInt8) : String :=
  String.ofList [Nat.digitChar (b.toNat / 16), Nat.digitChar (b.toNat % 16)]

/-- The name of a double that is not finite. -/
def doubleName (x : Double) : String :=
  if x.isNaN then "NaN" else if x.isNegative then "-Infinity" else "Infinity"

/-- A double with its type; a subnormal number is written plainly. -/
def canonicalDouble (x : Double) : Json :=
  if h : x.isFinite = true then
    if x.isNormal || x.isZero then wrapText "$numberDouble" (x.layout .exact)
    else .number (.double x h)
  else wrapText "$numberDouble" (doubleName x)

def relaxedDouble (x : Double) : Json :=
  if h : x.isFinite = true then .number (.double x h)
  else wrapText "$numberDouble" (doubleName x)

def canonicalDate (millis : Int64) : Json :=
  wrap "$date" (wrapText "$numberLong" (toString millis.toInt))

/-- A date from 1970 to the end of 9999 as text, any other by its milliseconds. -/
def relaxedDate (millis : Int64) : Json :=
  let n := millis.toInt
  if 0 ≤ n ∧ n < 253402300800000 then wrapText "$date" (Calendar.ofMillis n).toIso
  else canonicalDate millis

/-- The values that both forms write alike. -/
def typedJson : Native → Json
  | .undefined => wrap "$undefined" (.bool true)
  | .minKey => wrap "$minKey" (Json.int 1)
  | .maxKey => wrap "$maxKey" (Json.int 1)
  | .bool b => .bool b
  | .decimal d => wrapText "$numberDecimal" d.render
  | .string s => .string s
  | .symbol s => wrapText "$symbol" s
  | .code text => wrapText "$code" text
  | .objectId id => wrapText "$oid" id.toHex
  | .timestamp time increment =>
    wrap "$timestamp" (.object [("t", Json.int time.toNat), ("i", Json.int increment.toNat)])
  | .binary subtype bytes =>
    wrap "$binary" (.object [("base64", .string (Base64.encode bytes)),
      ("subType", .string (hexByte subtype))])
  | .regex pattern options =>
    wrap "$regularExpression" (.object [("pattern", .string pattern), ("options", .string options)])
  | .pointer collection id =>
    wrap "$dbPointer" (.object [("$ref", .string collection), ("$id", wrapText "$oid" id.toHex)])
  | _ => .null

mutual

def canonical : Native → Json
  | .int32 n => wrapText "$numberInt" (toString n.toInt)
  | .int64 n => wrapText "$numberLong" (toString n.toInt)
  | .double x => canonicalDouble x
  | .dateTime millis => canonicalDate millis
  | .scopedCode text scope =>
    .object [("$code", .string text), ("$scope", .object (canonicalFields scope))]
  | .array items => .array (canonicalItems items)
  | .document fields => .object (canonicalFields fields)
  | value => typedJson value

def canonicalItems : List Native → List Json
  | [] => []
  | item :: rest => canonical item :: canonicalItems rest

def canonicalFields : List (String × Native) → List (String × Json)
  | [] => []
  | (name, value) :: rest => (name, canonical value) :: canonicalFields rest

end

mutual

def relaxed : Native → Json
  | .int32 n => Json.int n.toInt
  | .int64 n => .number (.int n)
  | .double x => relaxedDouble x
  | .dateTime millis => relaxedDate millis
  | .scopedCode text scope =>
    .object [("$code", .string text), ("$scope", .object (relaxedFields scope))]
  | .array items => .array (relaxedItems items)
  | .document fields => .object (relaxedFields fields)
  | value => typedJson value

def relaxedItems : List Native → List Json
  | [] => []
  | item :: rest => relaxed item :: relaxedItems rest

def relaxedFields : List (String × Native) → List (String × Json)
  | [] => []
  | (name, value) :: rest => (name, relaxed value) :: relaxedFields rest

end

end StageThree.Native
