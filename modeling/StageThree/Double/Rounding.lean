import StageThree.Double.Basic

/-!
`Double.ofRatio` rounds an exact ratio of integers, a half going to the even neighbour. The
ratio is first scaled by a power of two so that its integer part has 53 binary digits (fewer
among the subnormal numbers); after that only an integer quotient is rounded. A quotient that
rounds up to `2 ^ 53` carries into the exponent by itself, because a pattern's exponent stands
directly above its mantissa.

Integers and decimal numerals are ratios. `Double.scaleByTen` is the other way to read a decimal:
each step rounds, as a reader that works in doubles would.
-/

namespace StageThree

namespace Double

/-- `num / den` rounded to the nearest integer, a half to the even one. -/
def roundDiv (num den : Nat) : Nat :=
  let quotient := num / den
  let twice := 2 * (num % den)
  if twice < den then quotient
  else if den < twice then quotient + 1
  else quotient + quotient % 2

/-- The exponent `q` for which `num / den` is written as `m * 2 ^ q` with 53 digits in `m`, or
with fewer when `q` would fall below the least exponent. -/
def ratioExponent (num den : Nat) : Int :=
  let estimate : Int := (num.log2 : Int) - den.log2 - 52
  let tooLarge :=
    if 0 ≤ estimate then num < den * Nat.pow 2 (52 + estimate.toNat)
    else num * Nat.pow 2 (-estimate).toNat < den * leadingBit
  max (-1074) (if tooLarge then estimate - 1 else estimate)

def scaledMantissa (num den : Nat) (q : Int) : Nat :=
  if 0 ≤ q then roundDiv num (den * Nat.pow 2 q.toNat)
  else roundDiv (num * Nat.pow 2 (-q).toNat) den

/-- The double nearest to `num / den` with the given sign; `den` is not zero. -/
def ofRatio (negative : Bool) (num den : Nat) : Double :=
  let q := ratioExponent num den
  let magnitude := (q + 1074).toNat * leadingBit + scaledMantissa num den q
  ofMagnitude negative (if num = 0 then 0 else min magnitude infinityMagnitude)

def ofNat (n : Nat) : Double := ofRatio false n 1

def ofInt (n : Int) : Double := ofRatio (n < 0) n.natAbs 1

/-- The double nearest to `digits * 10 ^ exponent`. Exponents that no double can reach are cut off
before a power of ten is computed. -/
def ofDecimal (negative : Bool) (digits : Nat) (exponent : Int) : Double :=
  let places : Int := (Nat.toDigits 10 digits).length
  if digits = 0 then ofMagnitude negative 0
  else if 400 < exponent + places then infinity negative
  else if exponent + places < -400 then ofMagnitude negative 0
  else if 0 ≤ exponent then ofRatio negative (digits * Nat.pow 10 exponent.toNat) 1
  else ofRatio negative digits (Nat.pow 10 (-exponent).toNat)

def powerOfTen (exponent : Nat) : Double := ofDecimal false 1 exponent

/-- Divides by `10 ^ exponent`, by `10 ^ 308` as long as the exponent is larger. -/
def divideByTens (x : Double) (exponent : Nat) : Double :=
  if exponent ≤ 308 then x.div (powerOfTen exponent)
  else if x.isZero then x
  else divideByTens (x.div (powerOfTen 308)) (exponent - 308)
termination_by exponent

/-- Scales by a power of ten in doubles, rounding at each step; `none` when the result is too
large. -/
def scaleByTen (x : Double) (exponent : Int) : Option Double :=
  if exponent < 0 then some (divideByTens x exponent.natAbs)
  else if 308 < exponent then if x.isZero then some x else none
  else
    let scaled := x.mul (powerOfTen exponent.toNat)
    if scaled.isInfinite then none else some scaled

end Double

end StageThree
