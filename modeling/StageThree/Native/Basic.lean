import StageThree.Fields
import StageThree.ObjectId
import StageThree.Decimal128
import StageThree.Double.Basic

/-!
The values that a document store keeps. Numbers have a width, identifiers, times and patterns are
types of their own, and a document is a list of named values in order.

`Native.same` is equality of structure: it tells the numeric widths apart, compares doubles as
numbers, and takes two documents for the same when they give every name the same value, in
whatever order.
-/

namespace StageThree

inductive Native where
  | null
  | undefined
  | minKey
  | maxKey
  | bool (value : Bool)
  | int32 (value : Int32)
  | int64 (value : Int64)
  | double (value : Double)
  | decimal (value : Decimal128)
  | string (value : String)
  | symbol (value : String)
  | code (text : String)
  | scopedCode (text : String) (scope : List (String × Native))
  | objectId (id : ObjectId)
  /-- A point in time in milliseconds since 1970. -/
  | dateTime (millis : Int64)
  | timestamp (time increment : UInt32)
  | binary (subtype : UInt8) (bytes : List UInt8)
  | regex (pattern options : String)
  | pointer (collection : String) (id : ObjectId)
  | array (items : List Native)
  | document (fields : List (String × Native))
  deriving Inhabited

abbrev Document := Fields Native

namespace Native

/-- A regular expression; its option letters are kept in order. -/
def ofPattern (pattern options : String) : Native :=
  .regex pattern (String.ofList (options.toList.mergeSort fun a b => a.toNat ≤ b.toNat))

def asString? : Native → Option String
  | .string s => some s
  | _ => none

def asDocument? : Native → Option Document
  | .document fields => some fields
  | _ => none

def sameScalar : Native → Native → Bool
  | .null, .null => true
  | .undefined, .undefined => true
  | .minKey, .minKey => true
  | .maxKey, .maxKey => true
  | .bool a, .bool b => a == b
  | .int32 a, .int32 b => a == b
  | .int64 a, .int64 b => a == b
  | .double a, .double b => a.equal b
  | .decimal a, .decimal b => a == b
  | .string a, .string b => a == b
  | .symbol a, .symbol b => a == b
  | .code a, .code b => a == b
  | .objectId a, .objectId b => a == b
  | .dateTime a, .dateTime b => a == b
  | .timestamp a i, .timestamp b j => a == b && i == j
  | .binary s a, .binary t b => s == t && a == b
  | .regex p o, .regex q r => p == q && o == r
  | .pointer m a, .pointer n b => m == n && a == b
  | _, _ => false

mutual

def same : Native → Native → Bool
  | .array a, .array b => sameItems a b
  | .document a, .document b => a.length == b.length && sameFields a b
  | .scopedCode t a, .scopedCode u b => t == u && a.length == b.length && sameFields a b
  | a, b => sameScalar a b

def sameItems : List Native → List Native → Bool
  | [], [] => true
  | a :: as, b :: bs => same a b && sameItems as bs
  | _, _ => false

/-- Whether the second list gives every name of the first the same value. -/
def sameFields : List (String × Native) → List (String × Native) → Bool
  | [], _ => true
  | (name, value) :: rest, fields =>
    (match Fields.get? name fields with
      | some other => same value other
      | none => false) && sameFields rest fields

end

mutual

/-- Whether no document anywhere in the value names a field twice. -/
def WellFormed : Native → Prop
  | .array items => WellFormedItems items
  | .document fields => Fields.WellFormed fields ∧ WellFormedFields fields
  | .scopedCode _ scope => Fields.WellFormed scope ∧ WellFormedFields scope
  | _ => True

def WellFormedItems : List Native → Prop
  | [] => True
  | item :: rest => WellFormed item ∧ WellFormedItems rest

def WellFormedFields : List (String × Native) → Prop
  | [] => True
  | (_, value) :: rest => WellFormed value ∧ WellFormedFields rest

end

end Native

end StageThree
