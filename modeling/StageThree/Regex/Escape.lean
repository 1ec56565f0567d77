import StageThree.Regex.Basic
import StageThree.ObjectId

/-!
The smallest parts of a pattern: flags, blanks that do not count, numbers and what follows a
backslash. A reader takes a part off the front of the text and returns the part with the rest.
-/

namespace StageThree.Regex

/-- What the letters `i`, `m`, `s`, `x`, `u` and `R` switch on and off, in front of a pattern or
inside it. -/
structure Flags where
  ignoreCase : Bool
  multiLine : Bool
  dotAll : Bool
  verbose : Bool
  unicode : Bool
  anyLine : Bool
  deriving DecidableEq

namespace Flags

def default : Flags := ⟨false, false, false, false, true, false⟩

instance : Inhabited Flags := ⟨default⟩

/-- Switches the flag of a letter. Whether repetitions are greedy does not show in what matches. -/
def set? (letter : Char) (on : Bool) (flags : Flags) : Option Flags :=
  match letter with
  | 'i' => some { flags with ignoreCase := on }
  | 'm' => some { flags with multiLine := on }
  | 's' => some { flags with dotAll := on }
  | 'x' => some { flags with verbose := on }
  | 'u' => some { flags with unicode := on }
  | 'R' => some { flags with anyLine := on }
  | 'U' => some flags
  | _ => none

/-- Switches on the letters before a dash and off those after it. -/
def setAll? (letters : List Char) (flags : Flags) : Option Flags :=
  if letters.eraseDups ≠ letters || letters.getLast? = some '-' then none
  else do
    let flags ← (letters.takeWhile (· ≠ '-')).foldlM (fun flags letter => flags.set? letter true)
      flags
    ((letters.dropWhile (· ≠ '-')).drop 1).foldlM (fun flags letter => flags.set? letter false)
      flags

end Flags

/-! ### Blanks and numbers -/

def dropBlanks (comment : Bool) : List Char → List Char
  | [] => []
  | c :: rest =>
    if comment then dropBlanks (c ≠ '\n') rest
    else if Text.isBlank c then dropBlanks false rest
    else if c = '#' then dropBlanks true rest
    else c :: rest

def skip (verbose : Bool) (text : List Char) : List Char :=
  if verbose then dropBlanks false text else text

theorem length_dropBlanks_le (comment : Bool) (text : List Char) :
    (dropBlanks comment text).length ≤ text.length := by
  induction text generalizing comment with
  | nil => simp [dropBlanks]
  | cons c rest ih =>
    have h := fun b => Nat.le_succ_of_le (ih b)
    unfold dropBlanks
    split
    · exact h _
    · split
      · exact h _
      · split
        · exact h _
        · exact Nat.le_refl _

theorem length_skip_le (verbose : Bool) (text : List Char) :
    (skip verbose text).length ≤ text.length := by
  unfold skip
  split
  · exact length_dropBlanks_le false text
  · exact Nat.le_refl _

def digits (verbose : Bool) (value? : Char → Option Nat) : List Char → List Nat × List Char
  | [] => ([], [])
  | c :: rest =>
    match value? c with
    | none => ([], c :: rest)
    | some d =>
      let (more, rest) := digits verbose value? (skip verbose rest)
      (d :: more, rest)
termination_by text => text.length
decreasing_by
  have := length_skip_le verbose rest
  simp only [List.length_cons]
  omega

def valueOf (base : Nat) (digits : List Nat) : Nat := digits.foldl (fun n d => base * n + d) 0

def decimalDigit? (c : Char) : Option Nat := if c.isDigit then some (c.toNat - '0'.toNat) else none

def hexDigit? (c : Char) : Option Nat := (ObjectId.digit? c).map (·.val)

/-- A count between blanks; the count is absent where there are no digits, and there is no result
where it needs more than 32 bits. -/
def count? (verbose : Bool) (text : List Char) : Option (Option Nat × List Char) :=
  let (found, rest) := digits verbose decimalDigit? (text.dropWhile Text.isBlank)
  let rest := rest.dropWhile Text.isBlank
  if found.isEmpty then some (none, rest)
  else if valueOf 10 found < 0x100000000 then some (some (valueOf 10 found), rest)
  else none

def char? (code : Nat) : Option Char :=
  if h : code.isValidChar then some (Char.ofNatAux code h) else none

/-- A character by its code: so many digits, or any number of them between braces. -/
def charCode? (verbose : Bool) (width : Nat) (text : List Char) : Option (Char × List Char) :=
  match skip verbose text with
  | '{' :: rest =>
    match digits verbose hexDigit? (skip verbose rest) with
    | (d :: more, '}' :: rest) => (char? (valueOf 16 (d :: more))).map (·, skip verbose rest)
    | _ => none
  | text =>
    let (found, _) := digits verbose hexDigit? text
    if found.length < width then none
    else
      let rest := (List.range width).foldl (fun text _ => skip verbose text.tail) text
      (char? (valueOf 16 (found.take width))).map (·, rest)

/-! ### Escapes -/

inductive Escape where
  | char (c : Char)
  /-- A character given by the two digits of a byte. -/
  | byte (c : Char)
  | members (set : CharSet) (negated : Bool)
  | look (condition : Look)

def isEscapable (c : Char) : Bool :=
  c.toNat < 0x80 && !c.isAlphanum && c ≠ '<' && c ≠ '>'

def wordSet (flags : Flags) : CharSet := if flags.unicode then .word else .asciiWord

def namedBoundary? : String → Option (Bool → Bool → Bool)
  | "start" => some fun before after => !before && after
  | "end" => some fun before after => before && !after
  | "start-half" => some fun before _ => !before
  | "end-half" => some fun _ after => !after
  | _ => none

def isNameChar (c : Char) : Bool := c.isAlpha || c = '-'

def boundaryName (verbose : Bool) : List Char → List Char × List Char
  | [] => ([], [])
  | c :: rest =>
    if isNameChar c then
      let (more, rest) := boundaryName verbose (skip verbose rest)
      (c :: more, rest)
    else ([], c :: rest)
termination_by text => text.length
decreasing_by
  have := length_skip_le verbose rest
  simp only [List.length_cons]
  omega

/-- A word boundary, which may be one of those with a name between braces; other braces after it
are a repetition. -/
def boundary? (flags : Flags) (text : List Char) : Option (Escape × List Char) :=
  let plain := Escape.look (.word (wordSet flags) fun before after => before != after)
  match text with
  | '{' :: rest =>
    match skip flags.verbose rest with
    | [] => none
    | c :: more =>
      if isNameChar c then
        match boundaryName flags.verbose (c :: more) with
        | (name, '}' :: rest) =>
          (namedBoundary? (String.ofList name)).map fun accepts =>
            (.look (.word (wordSet flags) accepts), rest)
        | _ => none
      else some (plain, text)
  | _ => some (plain, text)

def escape? (flags : Flags) : List Char → Option (Escape × List Char)
  | [] => none
  | c :: rest =>
    match c with
    | 'd' => some (.members (if flags.unicode then .digit else .asciiDigit) false, rest)
    | 'D' => some (.members (if flags.unicode then .digit else .asciiDigit) true, rest)
    | 's' => some (.members (if flags.unicode then .blank else .asciiBlank) false, rest)
    | 'S' => some (.members (if flags.unicode then .blank else .asciiBlank) true, rest)
    | 'w' => some (.members (wordSet flags) false, rest)
    | 'W' => some (.members (wordSet flags) true, rest)
    | 'x' =>
      let isByte := (skip flags.verbose rest).head? ≠ some '{'
      (charCode? flags.verbose 2 rest).map fun (c, rest) =>
        (if isByte then .byte c else .char c, rest)
    | 'u' => (charCode? flags.verbose 4 rest).map fun (c, rest) => (.char c, rest)
    | 'U' => (charCode? flags.verbose 8 rest).map fun (c, rest) => (.char c, rest)
    | 'a' => some (.char '\x07', rest)
    | 'f' => some (.char '\x0c', rest)
    | 't' => some (.char '\t', rest)
    | 'n' => some (.char '\n', rest)
    | 'r' => some (.char '\r', rest)
    | 'v' => some (.char '\x0b', rest)
    | 'A' => some (.look .textStart, rest)
    | 'z' => some (.look .textEnd, rest)
    | 'b' => boundary? flags rest
    | 'B' => some (.look (.word (wordSet flags) fun before after => before == after), rest)
    | '<' => some (.look (.word (wordSet flags) fun before after => !before && after), rest)
    | '>' => some (.look (.word (wordSet flags) fun before after => before && !after), rest)
    | c => if isEscapable c then some (.char c, rest) else none

end StageThree.Regex
