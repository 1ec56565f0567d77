import StageThree.Regex.Escape

/-!
Classes in brackets: characters, ranges, escapes and names, classes inside classes, and the
operations `&&`, `--` and `~~` between them, which bind from left to right. Open classes and
pending operations wait on a stack.
-/

namespace StageThree.Regex

/-- The set with the characters that are its members up to case, if case does not matter. -/
def underCase (flags : Flags) (set : CharSet) : CharSet :=
  if !flags.ignoreCase then set
  else if flags.unicode then .folded set
  else
    .ofChars (((List.range 128).map Char.ofNat).filter fun c =>
      set.contains c || set.contains c.toLower || set.contains c.toUpper)

/-- The complement, which only exists beyond ASCII. -/
def complement? (flags : Flags) (set : CharSet) : Option CharSet :=
  if flags.unicode then some (.negated set) else none

def membersOf? (flags : Flags) (set : CharSet) (negated : Bool) : Option CharSet :=
  if negated then complement? flags set else some set

def memberChar? (flags : Flags) : Escape → Option Char
  | .char c | .byte c => if flags.unicode || c.toNat < 0x80 then some c else none
  | _ => none

inductive SetOp where
  | inter
  | diff
  | symmDiff

def SetOp.apply : SetOp → CharSet → CharSet → CharSet
  | inter, a, b => .inter a b
  | diff, a, b => .diff a b
  | symmDiff, a, b => .symmDiff a b

inductive Pending where
  /-- A class that holds `members` already when another opens inside it. -/
  | opened (members : CharSet) (negated : Bool)
  | operation (op : SetOp) (left : CharSet)

structure BracketState where
  pending : List Pending
  members : CharSet

namespace BracketState

def add (state : BracketState) (set : CharSet) : BracketState :=
  { state with members := .union state.members set }

/-- The pending operation on what was read before and the members. -/
def settle (state : BracketState) : BracketState :=
  match state.pending with
  | .operation op left :: pending => ⟨pending, op.apply left state.members⟩
  | _ => state

def operate (op : SetOp) (state : BracketState) : BracketState :=
  let state := state.settle
  ⟨.operation op state.members :: state.pending, .none⟩

end BracketState

/-- The dashes at the front of a class are members; the result says whether there were any. -/
def leadingDashes (verbose : Bool) : List Char → Bool × List Char
  | [] => (false, [])
  | c :: rest =>
    if c = '-' then (true, (leadingDashes verbose (skip verbose rest)).2) else (false, c :: rest)
termination_by text => text.length
decreasing_by
  have := length_skip_le verbose rest
  simp only [List.length_cons]
  omega

/-- Opens a class: negation, dashes, and a bracket that is a member because it comes first. -/
def openBracket? (flags : Flags) (pending : List Pending) (members : CharSet) (text : List Char) :
    Option (BracketState × List Char) :=
  let text := skip flags.verbose text
  let (negated, text) := match text with
    | '^' :: rest => (true, skip flags.verbose rest)
    | _ => (false, text)
  let pending := Pending.opened members negated :: pending
  match leadingDashes flags.verbose text with
  | (_, []) => none
  | (true, rest) => some (⟨pending, underCase flags (.single '-')⟩, rest)
  | (false, ']' :: rest) =>
    match skip flags.verbose rest with
    | [] => none
    | rest => some (⟨pending, underCase flags (.single ']')⟩, rest)
  | (false, rest) => some (⟨pending, .none⟩, rest)

def namedClass? (flags : Flags) (text : List Char) : Option (Option CharSet × List Char) :=
  match text with
  | ':' :: rest =>
    let (negated, rest) := match rest with
      | '^' :: rest => (true, rest)
      | _ => (false, rest)
    match rest.dropWhile (· ≠ ':') with
    | ':' :: ']' :: after =>
      (CharSet.named? (String.ofList (rest.takeWhile (· ≠ ':')))).map fun set =>
        (membersOf? flags (underCase flags set) negated, after)
    | _ => none
  | _ => none

def bracketItem? (flags : Flags) : List Char → Option (Escape × List Char)
  | [] => none
  | '\\' :: rest => escape? flags rest
  | c :: rest => some (.char c, rest)

def bracketRange? (flags : Flags) (text : List Char) : Option (CharSet × List Char) := do
  let (item, rest) ← bracketItem? flags text
  let rest := skip flags.verbose rest
  let single : Option CharSet := match item with
    | .members set negated => (membersOf? flags set negated).map (underCase flags)
    | item => (memberChar? flags item).map fun c => underCase flags (.single c)
  match rest with
  | [] => none
  | '-' :: more =>
    let more := skip flags.verbose more
    if more.head? = some ']' || more.head? = some '-' then return (← single, rest)
    else
      let (other, rest) ← bracketItem? flags more
      let first ← memberChar? flags item
      let last ← memberChar? flags other
      if first ≤ last then return (underCase flags (.range first last), rest) else none
  | _ => return (← single, rest)

inductive BracketStep where
  | more (state : BracketState) (rest : List Char)
  | done (set : CharSet) (rest : List Char)

def closeBracket? (flags : Flags) (state : BracketState) (rest : List Char) : Option BracketStep :=
  let state := state.settle
  match state.pending with
  | .opened outer negated :: pending =>
    (membersOf? flags state.members negated).map fun set =>
      if pending.isEmpty then .done set rest else .more ⟨pending, .union outer set⟩ rest
  | _ => none

def bracketStep? (flags : Flags) (state : BracketState) (text : List Char) :
    Option BracketStep :=
  match text with
  | '[' :: rest =>
    match namedClass? flags rest with
    | some (some set, rest) => some (.more (state.add set) rest)
    | some (none, _) => none
    | none =>
      (openBracket? flags state.pending state.members rest).map fun (state, rest) =>
        .more state rest
  | ']' :: rest => closeBracket? flags state rest
  | '&' :: '&' :: rest => some (.more (state.operate .inter) rest)
  | '-' :: '-' :: rest => some (.more (state.operate .diff) rest)
  | '~' :: '~' :: rest => some (.more (state.operate .symmDiff) rest)
  | text => (bracketRange? flags text).map fun (set, rest) => .more (state.add set) rest

def runBracket? (flags : Flags) (state : BracketState) (text : List Char) :
    Option (CharSet × List Char) :=
  match bracketStep? flags state (skip flags.verbose text) with
  | none => none
  | some (.done set rest) => some (set, rest)
  | some (.more state rest) =>
    if rest.length < text.length then runBracket? flags state rest else none
termination_by text.length

def bracket? (flags : Flags) (text : List Char) : Option (CharSet × List Char) := do
  let (state, rest) ← openBracket? flags [] .none text
  runBracket? flags state rest

end StageThree.Regex
