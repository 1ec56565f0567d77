import StageThree.Double.Rounding

/-!
Reading a double from a text of its own: the words for the numbers that are not finite, or a
decimal numeral, rounded correctly. A numeral has a digit before or after its point; blanks are
not allowed.
-/

namespace StageThree.Double

def decimalDigits (digits : List Char) : Nat :=
  digits.foldl (fun n c => 10 * n + (c.toNat - '0'.toNat)) 0

/-- The exponent after its letter, and nothing when there is no letter. -/
def numeralExponent? : List Char → Option Int
  | [] => some 0
  | c :: rest =>
    let (negative, digits) := match rest with
      | '-' :: digits => (true, digits)
      | '+' :: digits => (false, digits)
      | digits => (false, digits)
    if (c = 'e' || c = 'E') && !digits.isEmpty && digits.all Char.isDigit then
      let value : Int := decimalDigits digits
      some (if negative then -value else value)
    else none

def numeral? (negative : Bool) (cs : List Char) : Option Double :=
  let whole := cs.takeWhile Char.isDigit
  let rest := cs.dropWhile Char.isDigit
  let (fraction, rest) := match rest with
    | '.' :: rest => (rest.takeWhile Char.isDigit, rest.dropWhile Char.isDigit)
    | rest => ([], rest)
  if whole.isEmpty && fraction.isEmpty then none
  else (numeralExponent? rest).map fun exponent =>
    ofDecimal negative (decimalDigits (whole ++ fraction)) (exponent - fraction.length)

def parse? (text : String) : Option Double :=
  let (negative, cs) := match text.toList with
    | '-' :: rest => (true, rest)
    | '+' :: rest => (false, rest)
    | rest => (false, rest)
  let word := String.ofList (cs.map Char.toLower)
  if word = "inf" || word = "infinity" then some (infinity negative)
  else if word = "nan" then some nan
  else numeral? negative cs

end StageThree.Double
