import StageThree.Double.Basic

/-!
The decimals that read back as a given double fill an interval around it. Among them the shortest
are found by trying 1, 2, … 17 significant digits: on each such decimal grid only the two
neighbours of the value can be nearest, so the first grid with a neighbour in the interval gives
the length, and the nearer of the two gives the digits.
-/

namespace StageThree

/-- A positive decimal: `digits` without trailing zeros, the first standing `exponent` places
left of the units. The value is `d.ddd * 10 ^ exponent`. -/
structure Decimal where
  digits : List Char
  exponent : Int
  deriving DecidableEq, Inhabited

namespace Double

/-- Three ratios over one denominator: the value and the ends of the interval of decimals that
round to it. -/
structure Neighbourhood where
  low : Nat
  value : Nat
  high : Nat
  den : Nat
  closed : Bool

/-- The neighbourhood of a finite number other than zero. The gap below a power of two is half
the gap above it, save at the bottom of the exponent range. -/
def neighbourhood (x : Double) : Neighbourhood :=
  let m := x.mantissa
  let q := x.exponent - 2
  let below := if m = leadingBit ∧ x.exponent ≠ -1074 then 1 else 2
  let scale := Nat.pow 2 q.toNat
  { low := (4 * m - below) * scale
    value := 4 * m * scale
    high := (4 * m + 2) * scale
    den := Nat.pow 2 (-q).toNat
    closed := m % 2 = 0 }

def Neighbourhood.holds (n : Neighbourhood) (num den : Nat) : Bool :=
  let left := n.low * den
  let right := n.high * den
  let point := num * n.den
  if n.closed then left ≤ point ∧ point ≤ right else left < point ∧ point < right

/-- The `k` with `10 ^ k ≤ num / den < 10 ^ (k + 1)`. -/
def decimalExponent (num den : Nat) : Int :=
  let estimate : Int := (Nat.toDigits 10 num).length - (Nat.toDigits 10 den).length
  let reached :=
    if 0 ≤ estimate then den * Nat.pow 10 estimate.toNat ≤ num
    else den ≤ num * Nat.pow 10 (-estimate).toNat
  if reached then estimate else estimate - 1

/-- The multiple of `10 ^ e` that is nearest to the value among those that read back, if there
is one; of two that are equally near, the even multiple. -/
def Neighbourhood.nearest? (n : Neighbourhood) (e : Int) : Option Nat :=
  let up := Nat.pow 10 e.toNat
  let down := Nat.pow 10 (-e).toNat
  let lower := n.value * down / (n.den * up)
  let fits (candidate : Nat) : Bool := n.holds (candidate * up) down
  let twice := 2 * (n.value * down)
  let middle := (2 * lower + 1) * (n.den * up)
  match fits lower, fits (lower + 1) with
  | true, true =>
    if twice < middle then some lower
    else if middle < twice then some (lower + 1)
    else some (lower + lower % 2)
  | true, false => some lower
  | false, true => some (lower + 1)
  | false, false => none

def shortestFrom (n : Neighbourhood) (top : Int) (count : Nat) : Nat → Nat × Int
  | 0 => (0, 0)
  | fuel + 1 =>
    let e := top - count + 1
    match n.nearest? e with
    | some m => (m, e)
    | none => shortestFrom n top (count + 1) fuel

def dropTrailingZeros (digits : List Char) : List Char :=
  (digits.reverse.dropWhile (· = '0')).reverse

/-- The shortest decimal that reads back as the finite number `x`, which is not zero, without its
sign; of several the nearest. -/
def shortest (x : Double) : Decimal :=
  let n := x.neighbourhood
  let (m, e) := shortestFrom n (decimalExponent n.value n.den) 1 17
  let digits := Nat.toDigits 10 m
  ⟨dropTrailingZeros digits, e + digits.length - 1⟩

end Double

end StageThree
