/-!
Points in time as milliseconds since 1970 and their calendar text. Days are counted in years that
begin in March, so that the leap day is the last of its year and every month starts at a fixed
distance from the year's first day.
-/

namespace StageThree

structure CivilDate where
  year : Int
  month : Nat
  day : Nat
  deriving DecidableEq

namespace CivilDate

def isLeapYear (year : Int) : Bool := year % 4 = 0 ∧ (year % 100 ≠ 0 ∨ year % 400 = 0)

def monthLength (year : Int) (month : Nat) : Nat :=
  if month = 2 then if isLeapYear year then 29 else 28
  else if month = 4 ∨ month = 6 ∨ month = 9 ∨ month = 11 then 30
  else 31

/-- The number of days from 1970-01-01 to this day. -/
def toDays (d : CivilDate) : Int :=
  let year := if d.month ≤ 2 then d.year - 1 else d.year
  let era := year.fdiv 400
  let yearOfEra := year - era * 400
  let dayOfYear : Int := (153 * ((d.month + 9) % 12) + 2) / 5 + d.day - 1
  let dayOfEra := yearOfEra * 365 + yearOfEra / 4 - yearOfEra / 100 + dayOfYear
  era * 146097 + dayOfEra - 719468

def ofDays (days : Int) : CivilDate :=
  let shifted := days + 719468
  let era := shifted.fdiv 146097
  let dayOfEra := (shifted - era * 146097).toNat
  let yearOfEra := (dayOfEra - dayOfEra / 1460 + dayOfEra / 36524 - dayOfEra / 146096) / 365
  let dayOfYear := dayOfEra - (365 * yearOfEra + yearOfEra / 4 - yearOfEra / 100)
  let shiftedMonth := (5 * dayOfYear + 2) / 153
  let month := if shiftedMonth < 10 then shiftedMonth + 3 else shiftedMonth - 9
  let year := (yearOfEra : Int) + era * 400
  ⟨if month ≤ 2 then year + 1 else year, month, dayOfYear - (153 * shiftedMonth + 2) / 5 + 1⟩

end CivilDate

namespace Calendar

def padded (width n : Nat) : String :=
  let digits := Nat.toDigits 10 n
  String.ofList (List.replicate (width - digits.length) '0' ++ digits)

structure Moment where
  date : CivilDate
  hour : Nat
  minute : Nat
  second : Nat
  milli : Nat

def ofMillis (millis : Int) : Moment :=
  let days := millis.fdiv 86400000
  let rest := (millis - days * 86400000).toNat
  ⟨.ofDays days, rest / 3600000, rest / 60000 % 60, rest / 1000 % 60, rest % 1000⟩

def fraction (milli : Nat) : String :=
  String.ofList ((padded 3 milli).toList.reverse.dropWhile (· = '0')).reverse

def Moment.toIso (m : Moment) : String :=
  padded 4 m.date.year.natAbs ++ "-" ++ padded 2 m.date.month ++ "-" ++ padded 2 m.date.day ++
    "T" ++ padded 2 m.hour ++ ":" ++ padded 2 m.minute ++ ":" ++ padded 2 m.second ++
    (if m.milli = 0 then "" else "." ++ fraction m.milli) ++ "Z"

/-- The year of a date in a message; outside of four digits it has a sign. -/
def displayYear (year : Int) : String :=
  let digits := padded 4 year.natAbs
  if year < 0 then "-" ++ digits else if 9999 < year then "+" ++ digits else digits

/-- The text of a point in time in messages: the hour is not padded, and at least one fraction
digit is written. -/
def Moment.display (m : Moment) : String :=
  displayYear m.date.year ++ "-" ++ padded 2 m.date.month ++ "-" ++ padded 2 m.date.day ++ " " ++
    padded 1 m.hour ++ ":" ++ padded 2 m.minute ++ ":" ++ padded 2 m.second ++ "." ++
    (if m.milli = 0 then "0" else fraction m.milli) ++ " +00:00:00"

/-! ### Reading RFC 3339 text -/

def digits? (count : Nat) (cs : List Char) : Option (Nat × List Char) :=
  let digits := cs.take count
  if digits.length = count && digits.all Char.isDigit then
    some (digits.foldl (fun n c => 10 * n + (c.toNat - '0'.toNat)) 0, cs.drop count)
  else none

def char? (expected : Char) : List Char → Option (List Char)
  | [] => none
  | c :: rest => if c = expected then some rest else none

/-- A fraction of a second in nanoseconds; digits past the ninth are read and dropped. -/
def nanos? (cs : List Char) : Option (Nat × List Char) :=
  match cs with
  | '.' :: rest =>
    let digits := rest.takeWhile Char.isDigit
    let nine := (digits ++ List.replicate 9 '0').take 9
    if digits.isEmpty then none
    else some (nine.foldl (fun n c => 10 * n + (c.toNat - '0'.toNat)) 0,
      rest.dropWhile Char.isDigit)
  | rest => some (0, rest)

def offset? (cs : List Char) : Option (Int × List Char) :=
  match cs with
  | [] => none
  | c :: rest =>
    if c = 'Z' || c = 'z' then some (0, rest)
    else if c = '+' || c = '-' then do
      let (hours, rest) ← digits? 2 rest
      let rest ← char? ':' rest
      let (minutes, rest) ← digits? 2 rest
      if 23 < hours ∨ 59 < minutes then none
      else
        let total : Int := hours * 60 + minutes
        some (if c = '-' then -total else total, rest)
    else none

/-- Milliseconds of an RFC 3339 text. Date and time may be separated by any one ASCII character;
the fraction is cut to milliseconds towards 1970. A second 60 is taken for the last nanosecond
of the second before it, and only at the end of a month. -/
def millis? (text : String) : Option Int := do
  let cs := text.toList
  let (year, cs) ← digits? 4 cs
  let cs ← char? '-' cs
  let (month, cs) ← digits? 2 cs
  let cs ← char? '-' cs
  let (day, cs) ← digits? 2 cs
  let cs ← match cs with
    | [] => none
    | c :: rest => if c.toNat < 128 then some rest else none
  let (hour, cs) ← digits? 2 cs
  let cs ← char? ':' cs
  let (minute, cs) ← digits? 2 cs
  let cs ← char? ':' cs
  let (second, cs) ← digits? 2 cs
  let (nanos, cs) ← nanos? cs
  let (offset, cs) ← offset? cs
  let leap := second = 60
  let (second, nanos) := if leap then (59, 999999999) else (second, nanos)
  if month < 1 ∨ 12 < month ∨ day < 1 ∨ CivilDate.monthLength year month < day ∨ 23 < hour ∨
      59 < minute ∨ 59 < second ∨ cs ≠ [] then none
  else
    let days := (CivilDate.mk year month day).toDays
    let seconds : Int := (days * 24 + hour) * 3600 + (minute - offset) * 60 + second
    let total := seconds * 1000000000 + nanos
    let universal := ofMillis (seconds * 1000)
    let lastOfMonth := universal.date.day =
      CivilDate.monthLength universal.date.year universal.date.month
    if leap ∧ ¬(universal.hour = 23 ∧ universal.minute = 59 ∧ lastOfMonth) then none
    else some (total.tdiv 1000000)

end Calendar

end StageThree
