import StageThree.Json.Basic

/-!
A numeral is split into its parts first and valued afterwards. An integer numeral is exact as long
as it fits 64 bits. Every other numeral is a double: its digits are collected into a significand
as long as that fits 64 bits, later digits count for the exponent only, and the significand is
scaled by a power of ten in doubles. A numeral too large for a double has no value.
-/

namespace StageThree

namespace Json

def digitValue (c : Char) : Nat := c.toNat - '0'.toNat

def digitsValue (digits : List Char) : Nat :=
  digits.foldl (fun value c => 10 * value + digitValue c) 0

structure Numeral where
  negative : Bool
  whole : List Char
  fraction : Option (List Char)
  exponent : Option Int

namespace Numeral

/-- An exponent after its letter: a sign or none, and at least one digit. -/
def exponent? (cs : List Char) : Option Int :=
  let (negative, digits) :=
    match cs with
    | '-' :: rest => (true, rest)
    | '+' :: rest => (false, rest)
    | rest => (false, rest)
  if digits.isEmpty || !digits.all Char.isDigit then none
  else
    let value : Int := digitsValue digits
    some (if negative then -value else value)

def ofParts? (negative : Bool) (whole : List Char) (fraction : Option (List Char))
    (rest : List Char) : Option Numeral :=
  match rest with
  | [] => some ⟨negative, whole, fraction, none⟩
  | c :: rest =>
    if c = 'e' || c = 'E' then (exponent? rest).map fun e => ⟨negative, whole, fraction, some e⟩
    else none

/-- Reads a whole numeral. A leading zero stands alone, and a point has digits on both sides. -/
def ofChars? (cs : List Char) : Option Numeral :=
  let (negative, cs) :=
    match cs with
    | '-' :: rest => (true, rest)
    | rest => (false, rest)
  let whole := cs.takeWhile Char.isDigit
  let rest := cs.dropWhile Char.isDigit
  if whole.isEmpty || (whole.head? = some '0' && 1 < whole.length) then none
  else
    match rest with
    | '.' :: rest =>
      let fraction := rest.takeWhile Char.isDigit
      if fraction.isEmpty then none
      else ofParts? negative whole (some fraction) (rest.dropWhile Char.isDigit)
    | rest => ofParts? negative whole none rest

/-- Appends digits to a significand as long as it fits 64 bits; also gives the digits left over. -/
def absorb (significand : Nat) : List Char → Nat × List Char
  | [] => (significand, [])
  | c :: rest =>
    let next := 10 * significand + digitValue c
    if next < 0x10000000000000000 then absorb next rest else (significand, c :: rest)

def double? (n : Numeral) : Option Double :=
  let (significand, dropped) := absorb 0 n.whole
  let fraction := n.fraction.getD []
  let (significand, unread) := absorb significand fraction
  let places : Int := (dropped.length : Int) - (fraction.length - unread.length)
  let value := (Double.ofNat significand).scaleByTen (places + n.exponent.getD 0)
  value.map fun x => if n.negative then x.neg else x

/-- The value of a numeral; minus zero is a double. -/
def number? (n : Numeral) : Option Number :=
  match n.fraction, n.exponent with
  | none, none =>
    let value := digitsValue n.whole
    if n.negative && 0 < value && value ≤ 0x8000000000000000 then some (.int (Int64.ofInt (-value)))
    else if n.negative then n.double?.bind Number.ofDouble?
    else (Number.ofNat? value).orElse fun _ => n.double?.bind Number.ofDouble?
  | _, _ => n.double?.bind Number.ofDouble?

end Numeral

end Json

end StageThree
