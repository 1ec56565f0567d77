import StageThree.Json.Lexer

/-!
The texts of YAML scalars: plain, quoted, and in blocks. What stands between two words of a text
over several lines is folded: a single line break becomes a space, and of several the first is
dropped. Line breaks are line feeds and the two Unicode separators; other spellings have been
unified before (`unifyBreaks`).
-/

namespace StageThree.Yaml

/-- Spells carriage returns, alone or before a line feed, and next-line characters as line
feeds. -/
def unifyBreaks : List Char → List Char
  | [] => []
  | '\r' :: '\n' :: rest => '\n' :: unifyBreaks rest
  | c :: rest => (if c = '\r' || c = '\u0085' then '\n' else c) :: unifyBreaks rest

def isPrintable (c : Char) : Bool :=
  let n := c.toNat
  n = 0x9 || n = 0xA || n = 0xD || (0x20 ≤ n && n ≤ 0x7E) || n = 0x85 ||
    (0xA0 ≤ n && n ≤ 0xD7FF) || (0xE000 ≤ n && n ≤ 0xFFFD && n ≠ 0xFEFF) || 0x10000 ≤ n

def isBlank (c : Char) : Bool := c = ' ' || c = '\t'

def isBreak (c : Char) : Bool := c = '\n' || c = '\u2028' || c = '\u2029'

def isSpace (c : Char) : Bool := isBlank c || isBreak c

def atSpace : List Char → Bool
  | [] => true
  | c :: _ => isSpace c

def atTriple (mark : Char) : List Char → Bool
  | a :: b :: c :: rest => a = mark && b = mark && c = mark && atSpace rest
  | _ => false

def atSeparator (cs : List Char) : Bool := atTriple '-' cs || atTriple '.' cs

/-! ### Between words -/

/-- What has been read since the last word of a text. Lists are reversed. -/
inductive Gap where
  | closed
  | blanks (cs : List Char)
  /-- Line breaks, the first of which is missing if it was escaped, and then a number of blanks. -/
  | lines (first : Option Char) (others : List Char) (column : Nat)

namespace Gap

def add (gap : Gap) (c : Char) : Gap :=
  match gap with
  | closed => if isBlank c then blanks [c] else lines (some c) [] 0
  | blanks cs => if isBlank c then blanks (c :: cs) else lines (some c) [] 0
  | lines first others column =>
    if isBlank c then lines first others (column + 1) else lines first (c :: others) 0

def text : Gap → List Char
  | closed => []
  | blanks cs => cs.reverse
  | lines (some '\n') [] _ => [' ']
  | lines (some '\n') others _ => others.reverse
  | lines first others _ => first.toList ++ others.reverse

def column? : Gap → Option Nat
  | lines _ _ column => some column
  | _ => none

def isClosed : Gap → Bool
  | closed => true
  | _ => false

end Gap

/-! ### Plain scalars -/

def isFlowMark (c : Char) : Bool := c = ',' || c = '[' || c = ']' || c = '{' || c = '}'

/-- Reads a plain scalar: its characters, reversed, the gap behind it and what follows. Outside of
flow collections each of its lines has at least `indent` blanks in front. -/
def plain? (flow : Bool) (indent : Nat) (done : List Char) (gap : Gap) :
    List Char → Option (List Char × Gap × List Char)
  | [] => some (done, gap, [])
  | c :: rest =>
    let ends : Bool := match gap.column? with
      | some column => (!flow && column < indent) || (column = 0 && atSeparator (c :: rest))
      | none => false
    let isMark : Bool := match rest with
      | d :: _ => isFlowMark d || d = '?'
      | [] => false
    if isSpace c then
      if c = '\t' && gap.column?.any (· < indent) then none
      else plain? flow indent done (gap.add c) rest
    else if ends || (c = '#' && !gap.isClosed) then some (done, gap, c :: rest)
    else if flow && c = ':' && isMark then none
    else if (c = ':' && atSpace rest) || (flow && isFlowMark c) then some (done, gap, c :: rest)
    else plain? flow indent (c :: (gap.text.reverse ++ done)) .closed rest

/-! ### Quoted scalars -/

inductive QuotedPart where
  | char (c : Char) (rest : List Char)
  | joined (rest : List Char)
  | closed (rest : List Char)

def hexChar? (count : Nat) (cs : List Char) : Option QuotedPart := do
  let digits ← (cs.take count).mapM Json.hexValue?
  let code := digits.foldl (fun n d => 16 * n + d) 0
  if digits.length = count ∧ (code < 0xD800 ∨ (0xDFFF < code ∧ code < 0x110000)) then
    return .char (Char.ofNat code) (cs.drop count)
  else none

def escaped? (c : Char) (rest : List Char) : Option QuotedPart :=
  match c with
  | '0' => some (.char '\x00' rest)
  | 'a' => some (.char '\x07' rest)
  | 'b' => some (.char '\x08' rest)
  | 't' => some (.char '\t' rest)
  | '\t' => some (.char '\t' rest)
  | 'n' => some (.char '\n' rest)
  | 'v' => some (.char '\x0b' rest)
  | 'f' => some (.char '\x0c' rest)
  | 'r' => some (.char '\r' rest)
  | 'e' => some (.char '\x1b' rest)
  | ' ' => some (.char ' ' rest)
  | '"' => some (.char '"' rest)
  | '/' => some (.char '/' rest)
  | '\\' => some (.char '\\' rest)
  | 'N' => some (.char '\u0085' rest)
  | '_' => some (.char '\u00a0' rest)
  | 'L' => some (.char '\u2028' rest)
  | 'P' => some (.char '\u2029' rest)
  | 'x' => hexChar? 2 rest
  | 'u' => hexChar? 4 rest
  | 'U' => hexChar? 8 rest
  | c => if isBreak c then some (.joined rest) else none

def singlePart? : List Char → Option QuotedPart
  | '\'' :: '\'' :: rest => some (.char '\'' rest)
  | '\'' :: rest => some (.closed rest)
  | c :: rest => some (.char c rest)
  | [] => none

def doublePart? : List Char → Option QuotedPart
  | '"' :: rest => some (.closed rest)
  | '\\' :: c :: rest => escaped? c rest
  | c :: rest => some (.char c rest)
  | [] => none

def quoted? (part? : List Char → Option QuotedPart) (done : List Char) (gap : Gap)
    (cs : List Char) : Option (String × List Char) :=
  match cs with
  | [] => none
  | c :: rest =>
    if isSpace c then quoted? part? done (gap.add c) rest
    else if gap.column? = some 0 && atSeparator (c :: rest) then none
    else
      let done := gap.text.reverse ++ done
      match part? (c :: rest) with
      | none => none
      | some (.closed rest) => some (String.ofList done.reverse, rest)
      | some (.char d next) =>
        if next.length < rest.length + 1 then quoted? part? (d :: done) .closed next else none
      | some (.joined next) =>
        if next.length < rest.length + 1 then quoted? part? done (.lines none [] 0) next else none
termination_by cs.length

/-! ### Blocks -/

inductive Chomping where
  | strip
  | clip
  | keep
  deriving DecidableEq

structure BlockHeader where
  chomping : Chomping
  /-- The indentation of the block against its surroundings, if it is given. -/
  extra? : Option Nat

def chomping? : List Char → Option Chomping × List Char
  | '+' :: rest => (some .keep, rest)
  | '-' :: rest => (some .strip, rest)
  | cs => (none, cs)

/-- One digit for the indentation; zero is refused. -/
def extra? : List Char → Option (Option Nat × List Char)
  | c :: rest =>
    if c = '0' then none
    else if c.isDigit then some (some (c.toNat - '0'.toNat), rest)
    else some (none, c :: rest)
  | [] => some (none, [])

def lineEnd? (cs : List Char) : Option (List Char) :=
  let cs := cs.dropWhile isBlank
  let cs := match cs with
    | '#' :: _ => cs.dropWhile fun c => !isBreak c
    | cs => cs
  match cs with
  | [] => some []
  | c :: rest => if isBreak c then some rest else none

def blockHeader? (cs : List Char) : Option (BlockHeader × List Char) := do
  let (first?, cs) := chomping? cs
  let (extra?, cs) ← extra? cs
  let (second?, cs) := if first?.isNone && extra?.isSome then chomping? cs else (none, cs)
  let cs ← lineEnd? cs
  return (⟨(first?.orElse fun _ => second?).getD .clip, extra?⟩, cs)

/-- What lies before the next line of a block that is not empty. -/
structure Indentation where
  column : Nat
  /-- The most blanks that any line had. -/
  deepest : Nat
  breaks : List Char

def indentation? (indent? : Option Nat) (deepest : Nat) (breaks cs : List Char) :
    Option (Indentation × List Char) :=
  let spaces := (cs.takeWhile (· = ' ')).length
  let column := match indent? with
    | some indent => min indent spaces
    | none => spaces
  let deepest := max deepest column
  match h : cs.drop column with
  | [] => some (⟨column, deepest, breaks⟩, [])
  | c :: rest =>
    if c = '\t' && indent?.all (column < ·) then none
    else if isBreak c then
      have : rest.length < cs.length := by
        have := congrArg List.length h
        simp at this
        omega
      indentation? indent? deepest (c :: breaks) rest
    else some (⟨column, deepest, breaks⟩, c :: rest)
termination_by cs.length

structure BlockState where
  done : List Char
  /-- The line break behind the last line, if there was one. -/
  lead : List Char
  blank : Bool
  breaks : List Char

def blockLines? (folded : Bool) (indent : Nat) (state : BlockState) (column : Nat)
    (cs : List Char) : Option (BlockState × List Char) :=
  match cs with
  | [] => some (state, [])
  | c :: rest =>
    if column ≠ indent then some (state, c :: rest)
    else
      let blank := isBlank c
      let lead :=
        if folded && state.lead = ['\n'] && !state.blank && !blank then
          if state.breaks.isEmpty then [' '] else []
        else state.lead
      let line := (c :: rest).takeWhile fun c => !isBreak c
      let after := (c :: rest).dropWhile fun c => !isBreak c
      match indentation? (some indent) 0 [] (after.drop 1) with
      | none => none
      | some (next, tail) =>
        let state : BlockState :=
          ⟨line.reverse ++ (state.breaks ++ (lead ++ state.done)), after.take 1, blank,
            next.breaks⟩
        if _h : tail.length < (c :: rest).length then
          blockLines? folded indent state next.column tail
        else none
termination_by cs.length
decreasing_by exact _h

/-- Reads a block behind the sign that announces it; `outer?` is the indentation around it. -/
def block? (folded : Bool) (outer? : Option Nat) (cs : List Char) :
    Option (String × List Char) := do
  let (header, cs) ← blockHeader? cs
  let given? := header.extra?.map fun extra => outer?.getD 0 + extra
  let (first, cs) ← indentation? given? 0 [] cs
  let least := match outer? with
    | some outer => outer + 1
    | none => 1
  let indent := given?.getD (max first.deepest least)
  let (state, cs) ← blockLines? folded indent ⟨[], [], false, first.breaks⟩ first.column cs
  let tail := match header.chomping with
    | .strip => []
    | .clip => state.lead
    | .keep => state.breaks ++ state.lead
  return (String.ofList (tail ++ state.done).reverse, cs)

end StageThree.Yaml
