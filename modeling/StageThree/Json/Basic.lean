import StageThree.Fields
import StageThree.Double.Rounding

/-!
The values that queries and records are made of, as JSON text writes them. Objects keep the order
of their fields. A number is a 64-bit signed integer where it fits, an unsigned one beyond that
range, and a double otherwise; the middle kind is what has no native encoding, so it is a
constructor of its own (`Number.big`) and its range is part of the type. So is the range of a
double, since no text writes an infinity or a NaN.
-/

namespace StageThree

inductive Number where
  | int (value : Int64)
  /-- An integer above the signed range. -/
  | big (value : UInt64) (above : 0x8000000000000000 ≤ value.toNat)
  | double (value : Double) (finite : value.isFinite = true)
  deriving DecidableEq

inductive Json where
  | null
  | bool (value : Bool)
  | number (value : Number)
  | string (value : String)
  | array (items : List Json)
  | object (fields : List (String × Json))
  deriving Inhabited

/-- A generic record: attribute names with their values. -/
abbrev Record := Fields Json

namespace Number

def ofNat? (n : Nat) : Option Number :=
  if n < 0x8000000000000000 then some (.int (Int64.ofNat n))
  else if h : n < 0x10000000000000000 ∧ 0x8000000000000000 ≤ (UInt64.ofNat n).toNat then
    some (.big (UInt64.ofNat n) h.2)
  else none

def ofDouble? (x : Double) : Option Number :=
  if h : x.isFinite = true then some (.double x h) else none

end Number

namespace Json

def int (n : Int) : Json := .number (.int (Int64.ofInt n))

def kind : Json → String
  | .null => "null"
  | .bool _ => "a boolean"
  | .number _ => "a number"
  | .string _ => "a string"
  | .array _ => "an array"
  | .object _ => "an object"

def isNull : Json → Bool
  | .null => true
  | _ => false

def asString? : Json → Option String
  | .string s => some s
  | _ => none

def asBool? : Json → Option Bool
  | .bool b => some b
  | _ => none

def asArray? : Json → Option (List Json)
  | .array items => some items
  | _ => none

def asObject? : Json → Option (Fields Json)
  | .object fields => some fields
  | _ => none

mutual

/-- Whether no object anywhere in the value names a field twice. -/
def WellFormed : Json → Prop
  | .array items => WellFormedItems items
  | .object fields => Fields.WellFormed fields ∧ WellFormedFields fields
  | _ => True

def WellFormedItems : List Json → Prop
  | [] => True
  | item :: rest => WellFormed item ∧ WellFormedItems rest

def WellFormedFields : List (String × Json) → Prop
  | [] => True
  | (_, value) :: rest => WellFormed value ∧ WellFormedFields rest

end

mutual

/-- Repeated names keep their first place and their last value, at every depth. -/
def dedupe : Json → Json
  | .array items => .array (dedupeItems items)
  | .object fields => .object (Fields.ofList (dedupeFields fields))
  | value => value

def dedupeItems : List Json → List Json
  | [] => []
  | item :: rest => dedupe item :: dedupeItems rest

def dedupeFields : List (String × Json) → List (String × Json)
  | [] => []
  | (name, value) :: rest => (name, dedupe value) :: dedupeFields rest

end

end Json

end StageThree
