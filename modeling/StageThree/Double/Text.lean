import StageThree.Double.Shortest

/-!
All forms show the shortest digits that read back and differ only in the layout. A layout says
where positional notation ends and whether an integral number keeps a fraction digit. Past the
positional range a number is written with one digit before the point and a signed exponent.
-/

namespace StageThree

structure DoubleLayout where
  /-- Decimal exponents of the numbers written in positional notation; `none` for all of them. -/
  positional : Option (Int × Int)
  keepFraction : Bool

namespace DoubleLayout

/-- Numbers in JSON text: positional from 0.00001 up to below 10^16, always with a fraction. -/
def json : DoubleLayout := ⟨some (-5, 15), true⟩

/-- Numbers inside a typed wrapper: always positional, always with a fraction. -/
def exact : DoubleLayout := ⟨none, true⟩

/-- Numbers in messages: always positional, an integral number without a fraction. -/
def plain : DoubleLayout := ⟨none, false⟩

end DoubleLayout

namespace Decimal

def positional (d : Decimal) (keepFraction : Bool) : String :=
  let whole :=
    if d.exponent < 0 then ['0']
    else
      let places := d.exponent.toNat + 1
      d.digits.take places ++ List.replicate (places - d.digits.length) '0'
  let fraction :=
    if d.exponent < 0 then List.replicate (-d.exponent - 1).toNat '0' ++ d.digits
    else d.digits.drop (d.exponent.toNat + 1)
  let fraction := if fraction.isEmpty && keepFraction then ['0'] else fraction
  String.ofList (if fraction.isEmpty then whole else whole ++ '.' :: fraction)

def scientific (d : Decimal) : String :=
  let fraction := d.digits.drop 1
  let mantissa := d.digits.take 1 ++ (if fraction.isEmpty then [] else '.' :: fraction)
  let sign := if d.exponent < 0 then "e-" else "e+"
  String.ofList mantissa ++ sign ++ toString d.exponent.natAbs

end Decimal

namespace Double

def layout (x : Double) (l : DoubleLayout) : String :=
  let sign := if x.isNegative then "-" else ""
  if x.isZero then sign ++ (if l.keepFraction then "0.0" else "0")
  else
    let d := x.shortest
    match l.positional with
    | none => sign ++ d.positional l.keepFraction
    | some (low, high) =>
      if low ≤ d.exponent ∧ d.exponent ≤ high then sign ++ d.positional l.keepFraction
      else sign ++ d.scientific

def display (x : Double) : String :=
  if x.isNaN then "NaN"
  else if x.isInfinite then (if x.isNegative then "-inf" else "inf")
  else x.layout .plain

end Double

end StageThree
