import StageThree.Native.Basic
import StageThree.Double.Rounding

/-!
How stored values compare. Numbers compare across their widths: integers exactly with one another,
and as doubles as soon as one is a double. Values of different kinds do not compare, and equality
beyond the comparable kinds is sameness of structure.

For extrema every two values compare, first by kind. Kinds are ranked (`Native.kindRank`), and
values of one kind that do not compare count as equal.
-/

namespace StageThree.Native

/-- A number as a double, rounded to nearest. -/
def toDouble? : Native → Option Double
  | .int32 n => some (Double.ofInt n.toInt)
  | .int64 n => some (Double.ofInt n.toInt)
  | .double x => some x
  | _ => none

def toInt? : Native → Option Int
  | .int32 n => some n.toInt
  | .int64 n => some n.toInt
  | _ => none

def orderNumbers? (a b : Native) : Option Ordering :=
  match a.toInt?, b.toInt? with
  | some m, some n => some (compare m n)
  | _, _ => do (← a.toDouble?).order? (← b.toDouble?)

def order? : Native → Native → Option Ordering
  | .string a, .string b => some (compare a b)
  | .bool a, .bool b => some (compare a b)
  | .objectId a, .objectId b => some (compare a b)
  | .dateTime a, .dateTime b => some (compare a.toInt b.toInt)
  | .null, .null => some .eq
  | a, b => orderNumbers? a b

def equal (a b : Native) : Bool := a.order? b == some .eq || a.same b

/-! ### The order of all values -/

def kindRank : Native → Nat
  | .null | .undefined => 1
  | .int32 _ | .int64 _ | .double _ | .decimal _ => 2
  | .string _ | .symbol _ => 3
  | .document _ => 4
  | .array _ => 5
  | .binary _ _ => 6
  | .objectId _ => 7
  | .bool _ => 8
  | .dateTime _ => 9
  | .timestamp _ _ => 10
  | .regex _ _ => 11
  | .minKey | .maxKey | .code _ | .scopedCode _ _ | .pointer _ _ => 12

/-- The canonical order: kinds first, then values. -/
def canonicalOrder (a b : Native) : Ordering :=
  (compare a.kindRank b.kindRank).then ((a.order? b).getD .eq)

end StageThree.Native
