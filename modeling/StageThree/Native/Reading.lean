import StageThree.Native.Basic
import StageThree.WordRange
import StageThree.Json.Basic
import StageThree.Base64
import StageThree.Calendar
import StageThree.Double.Numeral

/-!
Native values out of generic ones. Values are converted from the inside out; an object whose
names are exactly those of an extended JSON form, and whose values have the right types, becomes
the value it stands for, and any other object a document.

There are two readings. Generic values have no widths: their integers become 64-bit, and one
beyond the signed range cannot be converted (`Native.ofGeneric?`). Text written for the store
itself gives an integer the narrowest width that holds it (`Native.ofExtended?`).
-/

namespace StageThree.Native

structure IntegerReading where
  int : Int64 → Native
  big : UInt64 → Option Native
  /-- Whether the two halves of a timestamp may differ in width. -/
  mixedTimestamps : Bool

/-- Integers of generic values. -/
def IntegerReading.wide : IntegerReading := ⟨.int64, fun _ => none, false⟩

/-- Integers of text written for the store. -/
def IntegerReading.narrow : IntegerReading where
  int n := if Fits32 n.toInt then .int32 n.toInt32 else .int64 n
  big n := some (.double (Double.ofNat n.toNat))
  mixedTimestamps := true

def integer? (text : String) : Option Int :=
  let (negative, digits) := match text.toList with
    | '-' :: rest => (true, rest)
    | '+' :: rest => (false, rest)
    | rest => (false, rest)
  if digits.isEmpty || !digits.all Char.isDigit then none
  else
    let value : Int := Double.decimalDigits digits
    some (if negative then -value else value)

def int32? (text : String) : Option Native :=
  (integer? text).bind fun n =>
    if Fits32 n then some (.int32 (Int32.ofInt n)) else none

def int64? (text : String) : Option Native :=
  (integer? text).bind fun n =>
    if Fits64 n then some (.int64 (Int64.ofInt n)) else none

def double? (text : String) : Option Native :=
  if text = "Infinity" then some (.double (Double.infinity false))
  else if text = "-Infinity" then some (.double (Double.infinity true))
  else (Double.parse? text).map .double

def byte? (text : String) : Option UInt8 :=
  match text.toList.mapM ObjectId.digit? with
  | some [high, low] => some (UInt8.ofNat (16 * high.val + low.val))
  | _ => none

/-- Bytes as text, or a value of plain bytes whose type is given anew. -/
def binary? (fields : Document) : Option Native :=
  match Fields.get? "base64" fields with
  | some (.string text) => do
    let bytes ← Base64.decode? text
    let subtype ← (← (Fields.get? "subType" fields).bind asString?) |> byte?
    return .binary subtype bytes
  | _ =>
    match Fields.get? "bytes" fields, Fields.get? "subType" fields with
    | some (.binary 0 bytes), some (.int32 subtype) =>
      if 0 ≤ subtype.toInt ∧ subtype.toInt < 256 then
        some (.binary (UInt8.ofNat subtype.toInt.toNat) bytes)
      else none
    | _, _ => none

def timestampHalf? (n : Int64) : Option UInt32 :=
  if 0 ≤ n.toInt ∧ n.toInt < 0x100000000 then some (UInt32.ofNat n.toInt.toNat) else none

/-- A timestamp; a negative 32-bit half stands for the unsigned number of its bits. -/
def timestamp? (reading : IntegerReading) (fields : Document) : Option Native := do
  let t ← Fields.get? "t" fields
  let i ← Fields.get? "i" fields
  match t, i with
  | .int32 t, .int32 i => return .timestamp t.toUInt32 i.toUInt32
  | .int64 t, .int64 i => return .timestamp (← timestampHalf? t) (← timestampHalf? i)
  | .int32 t, .int64 i =>
    if reading.mixedTimestamps then return .timestamp t.toUInt32 (← timestampHalf? i) else none
  | .int64 t, .int32 i =>
    if reading.mixedTimestamps then return .timestamp (← timestampHalf? t) i.toUInt32 else none
  | _, _ => none

def regex? (fields : Document) : Option Native := do
  let pattern ← (Fields.get? "pattern" fields).bind asString?
  let options ← (Fields.get? "options" fields).bind asString?
  return ofPattern pattern options

def pointer? (fields : Document) : Option Native := do
  let collection ← (Fields.get? "$ref" fields).bind asString?
  match Fields.get? "$id" fields with
  | some (.objectId id) => return .pointer collection id
  | _ => none

def date? : Native → Option Native
  | .int64 millis => some (.dateTime millis)
  | .string text => (Calendar.millis? text).map fun millis => .dateTime (Int64.ofInt millis)
  | _ => none

def isOne : Native → Bool
  | .int32 n => n.toInt = 1
  | .int64 n => n.toInt = 1
  | _ => false

def typed? (reading : IntegerReading) (name : String) (value : Native) : Option Native :=
  match name, value with
  | "$oid", .string text => (ObjectId.ofHex? text).map .objectId
  | "$symbol", .string text => some (.symbol text)
  | "$numberInt", .string text => int32? text
  | "$numberLong", .string text => int64? text
  | "$numberDouble", .string text => double? text
  | "$numberDecimal", .string text => (Decimal128.parse? text).map .decimal
  | "$binary", .document fields => binary? fields
  | "$code", .string text => some (.code text)
  | "$timestamp", .document fields => timestamp? reading fields
  | "$regularExpression", .document fields => regex? fields
  | "$dbPointer", .document fields => pointer? fields
  | "$date", value => date? value
  | "$minKey", value => if isOne value then some .minKey else none
  | "$maxKey", value => if isOne value then some .maxKey else none
  | "$undefined", .bool true => some .undefined
  | _, _ => none

def ofFields (reading : IntegerReading) (fields : Document) : Native :=
  match fields with
  | [(name, value)] => (typed? reading name value).getD (.document fields)
  | [("$code", .string text), ("$scope", .document scope)] => .scopedCode text scope
  | [("$scope", .document scope), ("$code", .string text)] => .scopedCode text scope
  | _ => .document fields

mutual

def read? (reading : IntegerReading) : Json → Option Native
  | .null => some .null
  | .bool b => some (.bool b)
  | .number (.int n) => some (reading.int n)
  | .number (.big n _) => reading.big n
  | .number (.double x _) => some (.double x)
  | .string s => some (.string s)
  | .array items => (readItems? reading items).map .array
  | .object fields => (readFields? reading fields).map (ofFields reading)

def readItems? (reading : IntegerReading) : List Json → Option (List Native)
  | [] => some []
  | item :: rest => do return (← read? reading item) :: (← readItems? reading rest)

def readFields? (reading : IntegerReading) :
    List (String × Json) → Option (List (String × Native))
  | [] => some []
  | (name, value) :: rest =>
    do return (name, ← read? reading value) :: (← readFields? reading rest)

end

/-- The native form of a generic value, unless it holds an integer beyond the signed range. -/
def ofGeneric? (value : Json) : Option Native := read? .wide value

/-- The native value that extended JSON written for the store stands for. -/
def ofExtended? (value : Json) : Option Native := read? .narrow value

end StageThree.Native
