import StageThree.Regex.Bracket

/-!
Patterns. A pattern is read from left to right; groups that are open wait on a stack. Flags hold
to the end of the group that sets them, alternatives included. There is neither looking around nor
referring back to a group, so that every pattern is a regular expression in the strict sense.

A pattern is refused if it is nested too deeply. A compiler of regular expressions refuses it also
if what it compiles to grows too large; that bound is not modelled, so that a pattern which is read
here may still be refused there.
-/

namespace StageThree.Regex

structure Piece where
  regex : Regex
  depth : Nat
  deriving Inhabited

namespace Piece

def deepest (pieces : List Piece) : Nat := pieces.foldl (fun n piece => max n piece.depth) 0

def sequence : List Piece → Piece
  | [] => ⟨.empty, 0⟩
  | [piece] => piece
  | pieces => ⟨seqAll (pieces.map (·.regex)), deepest pieces + 1⟩

def choice : List Piece → Piece
  | [] => ⟨.empty, 0⟩
  | [piece] => piece
  | piece :: rest => ⟨altAll piece.regex (rest.map (·.regex)), deepest (piece :: rest) + 1⟩

def repeated (least : Nat) (most? : Option Nat) (piece : Piece) : Piece :=
  ⟨.repeated piece.regex least most?, piece.depth + 1⟩

def group (piece : Piece) : Piece := { piece with depth := piece.depth + 1 }

end Piece

/-- An item of a sequence; only a part can be repeated. -/
inductive Item where
  | piece (piece : Piece)
  | flags

def Item.toPiece : Item → Piece
  | piece p => p
  | flags => ⟨.empty, 0⟩

/-- A group while it is read, the latest parts in front. -/
structure Group where
  /-- The flags that hold again after the group. -/
  outside : Flags
  branches : List Piece
  items : List Item

namespace Group

def opened (outside : Flags) : Group := ⟨outside, [], []⟩

def branch (group : Group) : Group :=
  { group with
    branches := Piece.sequence (group.items.reverse.map Item.toPiece) :: group.branches
    items := [] }

def toPiece (group : Group) : Piece := Piece.choice group.branch.branches.reverse

end Group

structure PatternState where
  flags : Flags
  current : Group
  outer : List Group
  names : List String

namespace PatternState

def start (flags : Flags) : PatternState := ⟨flags, .opened flags, [], []⟩

def addItem (state : PatternState) (item : Item) : PatternState :=
  { state with current := { state.current with items := item :: state.current.items } }

def add (state : PatternState) (regex : Regex) (depth : Nat) : PatternState :=
  state.addItem (.piece ⟨regex, depth⟩)

def openGroup (state : PatternState) (flags : Flags) : PatternState :=
  { state with
    flags := flags, current := .opened state.flags, outer := state.current :: state.outer }

def closeGroup? (state : PatternState) : Option PatternState :=
  match state.outer with
  | [] => none
  | group :: outer =>
    some (({ state with flags := state.current.outside, current := group, outer := outer }).addItem
      (.piece state.current.toPiece.group))

def branch (state : PatternState) : PatternState :=
  { state with current := state.current.branch }

def repeat? (state : PatternState) (least : Nat) (most? : Option Nat) : Option PatternState :=
  match state.current.items with
  | .piece piece :: rest =>
    some { state with
      current := { state.current with items := .piece (piece.repeated least most?) :: rest } }
  | _ => none

end PatternState

def charSet (flags : Flags) (c : Char) : CharSet :=
  if !flags.ignoreCase then .single c
  else if flags.unicode then .caseless c
  else if c.isAlpha then .union (.single c.toLower) (.single c.toUpper)
  else .single c

/-- The characters that the dot stands for; without characters beyond ASCII it stands for none. -/
def dot? (flags : Flags) : Option CharSet :=
  if !flags.unicode then none
  else if flags.dotAll then some .all
  else if flags.anyLine then some (.negated (.union (.single '\n') (.single '\r')))
  else some (.negated (.single '\n'))

def lineStart (flags : Flags) : Look :=
  if !flags.multiLine then .textStart else if flags.anyLine then .anyLineStart else .lineStart

def lineEnd (flags : Flags) : Look :=
  if !flags.multiLine then .textEnd else if flags.anyLine then .anyLineEnd else .lineEnd

/-! ### Steps -/

abbrev PatternStep := Option (PatternState × List Char)

def isGroupName (name : List Char) : Bool :=
  match name with
  | [] => false
  | first :: rest =>
    (first = '_' || (Text.isWord first && !Text.isDigit first)) &&
      rest.all fun c => c = '_' || c = '.' || c = '[' || c = ']' || Text.isWord c

/-- A group that captures under a name, behind the `<`. -/
def namedGroup? (state : PatternState) (text : List Char) : PatternStep :=
  let name := text.takeWhile (· ≠ '>')
  match text.dropWhile (· ≠ '>') with
  | '>' :: rest =>
    if isGroupName name && !state.names.contains (String.ofList name) then
      some ({ state with names := String.ofList name :: state.names }.openGroup state.flags, rest)
    else none
  | _ => none

/-- Flags for a group of its own, or for the rest of the group around them. -/
def flagGroup? (state : PatternState) (text : List Char) : PatternStep :=
  let letters := text.takeWhile fun c => c ≠ ':' && c ≠ ')'
  match state.flags.setAll? letters, text.drop letters.length with
  | some flags, ':' :: rest => some (state.openGroup flags, rest)
  | some flags, ')' :: rest =>
    if letters.isEmpty then none else some ({ state with flags := flags }.addItem .flags, rest)
  | _, _ => none

def group? (state : PatternState) (text : List Char) : PatternStep :=
  match skip state.flags.verbose text with
  | '?' :: 'P' :: '<' :: rest => namedGroup? state rest
  | '?' :: '<' :: rest => namedGroup? state rest
  | '?' :: rest => flagGroup? state rest
  | text => some (state.openGroup state.flags, text)

/-- Repetition as it is written with one character; a question mark after it changes nothing. -/
def repetition? (state : PatternState) (least : Nat) (most? : Option Nat) (text : List Char) :
    PatternStep :=
  (state.repeat? least most?).map fun state =>
    match text with
    | '?' :: rest => (state, rest)
    | text => (state, text)

def countedRepetition? (state : PatternState) (text : List Char) : PatternStep := do
  let verbose := state.flags.verbose
  let (least?, rest) ← count? verbose (skip verbose text)
  match least?, rest with
  | some n, '}' :: rest => repetition? state n (some n) (skip verbose rest)
  | some n, ',' :: rest =>
    match skip verbose rest with
    | '}' :: rest => repetition? state n none (skip verbose rest)
    | rest =>
      match ← count? verbose rest with
      | (some m, '}' :: rest) =>
        if n ≤ m then repetition? state n (some m) (skip verbose rest) else none
      | _ => none
  | _, _ => none

def escapeStep? (state : PatternState) (text : List Char) : PatternStep := do
  let (escape, rest) ← escape? state.flags text
  match escape with
  | .char c => return (state.add (.one (charSet state.flags c)) 0, rest)
  | .byte c =>
    if state.flags.unicode || c.toNat < 0x80 then
      return (state.add (.one (charSet state.flags c)) 0, rest)
    else none
  | .members set negated =>
    return (state.add (.one (← membersOf? state.flags set negated)) 0, rest)
  | .look condition => return (state.add (.look condition) 0, rest)

def patternStep? (state : PatternState) (c : Char) (rest : List Char) : PatternStep :=
  match c with
  | '(' => group? state rest
  | ')' => state.closeGroup?.map (·, rest)
  | '|' => some (state.branch, rest)
  | '[' => do
    let (set, rest) ← bracket? state.flags rest
    return (state.add (.one set) 1, rest)
  | '?' => repetition? state 0 (some 1) rest
  | '*' => repetition? state 0 none rest
  | '+' => repetition? state 1 none rest
  | '{' => countedRepetition? state rest
  | '\\' => escapeStep? state rest
  | '.' => (dot? state.flags).map fun set => (state.add (.one set) 0, rest)
  | '^' => some (state.add (.look (lineStart state.flags)) 0, rest)
  | '$' => some (state.add (.look (lineEnd state.flags)) 0, rest)
  | c => some (state.add (.one (charSet state.flags c)) 0, rest)

def runPattern? (state : PatternState) (text : List Char) : Option PatternState :=
  match skip state.flags.verbose text with
  | [] => some state
  | c :: rest =>
    match patternStep? state c rest with
    | none => none
    | some (state, rest) =>
      if rest.length < text.length then runPattern? state rest else none
termination_by text.length

def maxDepth : Nat := 250

/-- The regular expression that a pattern stands for, however much room it takes when compiled. -/
def parse? (flags : Flags) (pattern : String) : Option Regex := do
  let state ← runPattern? (.start flags) pattern.toList
  let piece := state.current.toPiece
  if state.outer.isEmpty && piece.depth ≤ maxDepth then some piece.regex else none

end StageThree.Regex
