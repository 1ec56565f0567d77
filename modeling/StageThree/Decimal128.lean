/-!
Decimal floating point numbers of 34 digits. A numeral is taken as it is written, trailing zeros
included: the coefficient and the exponent are kept apart and nothing is normalised. A numeral
that would have to drop a digit other than zero is refused.
-/

namespace StageThree

inductive Decimal128 where
  | finite (negative : Bool) (coefficient : Nat) (exponent : Int)
  | infinity (negative : Bool)
  | nan (negative signalling : Bool)
  deriving DecidableEq

namespace Decimal128

def maxDigits : Nat := 34

def minExponent : Int := -6176

def maxExponent : Int := 6111

/-- The number of a row of digits, in front of which a plus sign may stand. -/
def unsigned? (cs : List Char) : Option Nat :=
  let digits := match cs with
    | '+' :: rest => rest
    | rest => rest
  if digits.isEmpty || !digits.all Char.isDigit then none
  else some (digits.foldl (fun n c => 10 * n + (c.toNat - '0'.toNat)) 0)

def fits16? (exponent : Int) : Option Int :=
  if -32768 ≤ exponent ∧ exponent < 32768 then some exponent else none

def exponent? (cs : List Char) : Option Int :=
  let value : Option Int := match cs with
    | '-' :: '+' :: _ => none
    | '-' :: rest => (unsigned? rest).map fun n => -(n : Int)
    | rest => (unsigned? rest).map fun n => (n : Int)
  value.bind fits16?

/-- Keeps the first `precision` digits; the others have to be zeros. -/
def cut? (digits : List Char) (precision : Nat) : Option (List Char) :=
  if (digits.drop precision).all (· = '0') then some (digits.take precision) else none

def significant (digits : List Char) : List Char :=
  let rest := digits.dropWhile (· = '0')
  if rest.isEmpty && !digits.isEmpty then ['0'] else rest

/-- Brings an exponent below the least one up to it. -/
def raise? (digits : List Char) (exponent : Int) : Option (List Char × Int) :=
  if minExponent ≤ exponent then some (digits, exponent)
  else if digits = ['0'] then some (digits, minExponent)
  else
    let delta := (minExponent - exponent).toNat
    if digits.length < delta then none
    else (cut? digits (digits.length - delta)).map fun digits => (digits, minExponent)

/-- Brings an exponent above the largest one down to it by appending zeros. -/
def lower? (digits : List Char) (exponent : Int) : Option (List Char × Int) :=
  if exponent ≤ maxExponent then some (digits, exponent)
  else if digits = ['0'] then some (digits, maxExponent)
  else
    let delta := (exponent - maxExponent).toNat
    if maxDigits < digits.length + delta then none
    else some (digits ++ List.replicate delta '0', maxExponent)

def ofNumeral? (negative : Bool) (cs : List Char) : Option Decimal128 := do
  let mantissa := cs.takeWhile (· ≠ 'e')
  let exponent ← match cs.dropWhile (· ≠ 'e') with
    | [] => some 0
    | _ :: rest => exponent? rest
  let whole := mantissa.takeWhile (· ≠ '.')
  let fraction := (mantissa.dropWhile (· ≠ '.')).drop 1
  let digits := significant (whole ++ fraction)
  let exponent ← fits16? (exponent - fraction.length)
  let kept ← if maxDigits < digits.length then cut? digits maxDigits else some digits
  let exponent := exponent + (digits.length - kept.length : Nat)
  let (digits, exponent) ← raise? kept exponent
  let (digits, exponent) ← lower? digits exponent
  let coefficient ← unsigned? digits
  return .finite negative coefficient exponent

def parse? (text : String) : Option Decimal128 :=
  let (negative, cs) := match text.toList with
    | '-' :: rest => (true, rest)
    | '+' :: rest => (false, rest)
    | rest => (false, rest)
  let cs := cs.map Char.toLower
  let word := String.ofList cs
  if word = "nan" then some (.nan negative false)
  else if word = "snan" then some (.nan negative true)
  else if word = "infinity" || word = "inf" then some (.infinity negative)
  else ofNumeral? negative cs

/-- A finite number: positional unless the exponent is positive or the first digit stands more
than six places right of the point. -/
def renderFinite (coefficient : Nat) (exponent : Int) : String :=
  let digits := Nat.toDigits 10 coefficient
  let top := exponent + digits.length - 1
  if exponent ≤ 0 ∧ -6 ≤ top then
    let places := exponent.natAbs
    if places = 0 then String.ofList digits
    else if digits.length ≤ places then
      String.ofList ('0' :: '.' :: List.replicate (places - digits.length) '0' ++ digits)
    else
      let split := digits.length - places
      String.ofList (digits.take split ++ '.' :: digits.drop split)
  else
    let fraction := digits.drop 1
    let mantissa := digits.take 1 ++ (if fraction.isEmpty then [] else '.' :: fraction)
    String.ofList mantissa ++ "E" ++ (if 0 < top then "+" else "") ++ toString top

def render : Decimal128 → String
  | .finite negative coefficient exponent =>
    (if negative then "-" else "") ++ renderFinite coefficient exponent
  | .infinity negative => if negative then "-Infinity" else "Infinity"
  | .nan _ _ => "NaN"

end Decimal128

end StageThree
