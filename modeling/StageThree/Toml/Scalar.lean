import StageThree.Toml.Basic
import StageThree.Calendar
import StageThree.Double.Numeral
import StageThree.Json.Lexer

/-!
Scalars that are written without quotes: truth values, numbers, dates and times. An integer has
at most 128 bits, and a float that is not called infinite is finite.
-/

namespace StageThree.Toml

/-! ### Numbers -/

/-- A row of digits in which an underscore may stand between any two. -/
def digits? (isDigit : Char → Bool) (cs : List Char) : Option (List Char) :=
  let groups := cs.splitOn '_'
  if groups.all fun group => !group.isEmpty && group.all isDigit then some groups.flatten
  else none

def isDigitOf (base : Nat) (c : Char) : Bool :=
  match Json.hexValue? c with
  | some value => value < base
  | none => false

def digitsValue (base : Nat) (digits : List Char) : Nat :=
  digits.foldl (fun n c => base * n + (Json.hexValue? c).getD 0) 0

/-- A decimal row of digits with no zero in front of others. -/
def whole? (cs : List Char) : Option (List Char) :=
  (digits? Char.isDigit cs).bind fun digits =>
    if digits.head? = some '0' && 1 < digits.length then none else some digits

def sign (cs : List Char) : Option Bool × List Char :=
  match cs with
  | '+' :: rest => (some false, rest)
  | '-' :: rest => (some true, rest)
  | rest => (none, rest)

def ofInteger? (value : Int) : Option Toml :=
  if -0x80000000000000000000000000000000 ≤ value ∧
      value < 0x100000000000000000000000000000000 then some (integer value)
  else none

def integer? (cs : List Char) : Option Toml :=
  match cs with
  | '0' :: 'x' :: digits => radix? 16 digits
  | '0' :: 'o' :: digits => radix? 8 digits
  | '0' :: 'b' :: digits => radix? 2 digits
  | cs =>
    let (sign?, digits) := sign cs
    (whole? digits).bind fun digits =>
      let value : Int := digitsValue 10 digits
      ofInteger? (if sign? = some true then -value else value)
where
  /-- Digits of a base that a prefix announces; they take no sign. -/
  radix? (base : Nat) (digits : List Char) : Option Toml :=
    (digits? (isDigitOf base) digits).bind fun digits => ofInteger? (digitsValue base digits)

def exponent? (cs : List Char) : Option Int :=
  let (sign?, digits) := sign cs
  (digits? Char.isDigit digits).map fun digits =>
    let value : Int := digitsValue 10 digits
    if sign? = some true then -value else value

def isExponentMark (c : Char) : Bool := c = 'e' || c = 'E'

/-- A float has a fraction or an exponent or both. -/
def float? (cs : List Char) : Option Toml := do
  let (sign?, cs) := sign cs
  let negative := sign? = some true
  if cs = ['i', 'n', 'f'] then return float (Double.infinity negative)
  if cs = ['n', 'a', 'n'] then return float Double.nan
  let significand := cs.takeWhile fun c => !isExponentMark c
  let exponent ← match cs.dropWhile fun c => !isExponentMark c with
    | [] => some 0
    | _ :: digits => exponent? digits
  let whole ← whole? (significand.takeWhile (· ≠ '.'))
  let fraction ← match significand.dropWhile (· ≠ '.') with
    | [] => if significand.length = cs.length then none else some []
    | _ :: digits => digits? Char.isDigit digits
  let value := Double.ofDecimal negative (digitsValue 10 (whole ++ fraction))
    (exponent - fraction.length)
  if value.isInfinite then none else return float value

/-! ### Dates and times -/

def afterDate? (cs : List Char) : Option (List Char) := do
  let (year, cs) ← Calendar.digits? 4 cs
  let cs ← Calendar.char? '-' cs
  let (month, cs) ← Calendar.digits? 2 cs
  let cs ← Calendar.char? '-' cs
  let (day, cs) ← Calendar.digits? 2 cs
  if 1 ≤ month ∧ month ≤ 12 ∧ 1 ≤ day ∧ day ≤ CivilDate.monthLength year month then some cs
  else none

/-- What follows a time of day; its seconds may be missing, and may be a leap second. -/
def afterTime? (cs : List Char) : Option (List Char) := do
  let (hour, cs) ← Calendar.digits? 2 cs
  let cs ← Calendar.char? ':' cs
  let (minute, cs) ← Calendar.digits? 2 cs
  if 23 < hour ∨ 59 < minute then none
  else
    match cs with
    | ':' :: cs =>
      let (second, cs) ← Calendar.digits? 2 cs
      let (_, cs) ← Calendar.nanos? cs
      if 60 < second then none else some cs
    | cs => some cs

def isDate (cs : List Char) : Bool := afterDate? cs = some []

def isMoment (cs : List Char) : Bool :=
  match afterDate? cs with
  | some [] => true
  | some (c :: rest) =>
    (c = 'T' || c = 't' || c = ' ') &&
      match afterTime? rest with
      | some [] => true
      | some rest => (Calendar.offset? rest).map (·.2) = some []
      | none => false
  | none => afterTime? cs = some []

def scalar? (cs : List Char) : Option Toml :=
  if cs = ['t', 'r', 'u', 'e'] then some (boolean true)
  else if cs = ['f', 'a', 'l', 's', 'e'] then some (boolean false)
  else if isMoment cs then some (moment (String.ofList cs))
  else (integer? cs).orElse fun _ => float? cs

end StageThree.Toml
