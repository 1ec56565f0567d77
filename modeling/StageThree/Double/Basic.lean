/-!
A double is held as its binary64 pattern, so that telling two apart, comparing them and reading
their digits are integer arithmetic. The magnitude (the pattern without its sign bit) grows with
the absolute value, hence `Double.rank` orders the numbers and is the whole of comparison: both
zeros have rank 0, and a NaN is beyond every rank and compares with nothing.
-/

namespace StageThree

/-- A binary64 number, by its bit pattern. -/
structure Double where
  bits : UInt64
  deriving DecidableEq, Inhabited

namespace Double

abbrev signBit : Nat := 0x8000000000000000

abbrev leadingBit : Nat := 0x10000000000000

/-- The magnitude of the infinities; larger magnitudes are NaN. -/
def infinityMagnitude : Nat := 0x7FF0000000000000

def magnitude (x : Double) : Nat := x.bits.toNat % signBit

def isNegative (x : Double) : Bool := signBit ≤ x.bits.toNat

def isNaN (x : Double) : Bool := infinityMagnitude < x.magnitude

def isInfinite (x : Double) : Bool := x.magnitude = infinityMagnitude

def isFinite (x : Double) : Bool := x.magnitude < infinityMagnitude

def isZero (x : Double) : Bool := x.magnitude = 0

/-- Whether the number is finite and has the implicit leading bit. -/
def isNormal (x : Double) : Bool := leadingBit ≤ x.magnitude ∧ x.magnitude < infinityMagnitude

def ofMagnitude (negative : Bool) (magnitude : Nat) : Double :=
  ⟨UInt64.ofNat (if negative then signBit + magnitude else magnitude)⟩

def zero : Double := ofMagnitude false 0

def infinity (negative : Bool) : Double := ofMagnitude negative infinityMagnitude

def nan : Double := ofMagnitude false 0x7FF8000000000000

/-- The place of a number in the order of all numbers that are not NaN. -/
def rank (x : Double) : Int := if x.isNegative then -(x.magnitude : Int) else x.magnitude

/-- How two numbers compare; a NaN compares with nothing. -/
def order? (x y : Double) : Option Ordering :=
  if x.isNaN || y.isNaN then none else some (compare x.rank y.rank)

/-- Numeric equality: zero equals minus zero, a NaN equals nothing. -/
def equal (x y : Double) : Bool := x.order? y == some .eq

/-- The integer `m` of the finite value `m * 2 ^ q`, without the sign. -/
def mantissa (x : Double) : Nat :=
  if x.magnitude < leadingBit then x.magnitude else leadingBit + x.magnitude % leadingBit

/-- The exponent `q` of the finite value `m * 2 ^ q`. -/
def exponent (x : Double) : Int :=
  if x.magnitude < leadingBit then -1074 else (x.magnitude / leadingBit : Nat) - 1075

/-- The whole part of a number, held between zero and a limit; a NaN has none. -/
def wholeUpTo (limit : Nat) (x : Double) : Nat :=
  if x.isNaN || x.isNegative then 0
  else if x.isInfinite then limit
  else if 0 ≤ x.exponent then min limit (x.mantissa * Nat.pow 2 x.exponent.toNat)
  else min limit (x.mantissa / Nat.pow 2 (-x.exponent).toNat)

def ofFloat (x : Float) : Double := ⟨x.toBits⟩

def toFloat (x : Double) : Float := Float.ofBits x.bits

/-! ### Arithmetic, each result rounded to the nearest double -/

def add (x y : Double) : Double := ofFloat (x.toFloat + y.toFloat)

def mul (x y : Double) : Double := ofFloat (x.toFloat * y.toFloat)

def div (x y : Double) : Double := ofFloat (x.toFloat / y.toFloat)

def neg (x : Double) : Double := ofMagnitude (!x.isNegative) x.magnitude

/-! ### Comparison -/

theorem isNaN_of_isFinite {x : Double} (h : x.isFinite = true) : x.isNaN = false := by
  simp only [isFinite, isNaN, decide_eq_true_eq, decide_eq_false_iff_not] at *
  omega

theorem order?_eq_some {x y : Double} (hx : x.isNaN = false) (hy : y.isNaN = false) :
    x.order? y = some (compare x.rank y.rank) := by
  simp [order?, hx, hy]

end Double

end StageThree
