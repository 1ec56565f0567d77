import StageThree.Yaml.Scalar

/-!
The tokens of a YAML document. Blocks are delimited by tokens of their own, one for each change of
the indentation. A mapping key shows only by the colon behind it; a place where one may have begun
is kept in mind, and the tokens that open the key and its mapping are inserted there later.
-/

namespace StageThree.Yaml

inductive Style where
  | plain
  | literal
  | other
  deriving DecidableEq

inductive Token where
  | version (major minor : Nat)
  | handle (name meaning : String)
  | documentStart
  | documentEnd
  | blockSequence
  | blockMapping
  | blockEnd
  | flowSequence
  | flowSequenceEnd
  | flowMapping
  | flowMappingEnd
  | blockEntry
  | flowEntry
  | key
  | value
  | reference (name : String)
  | anchor (name : String)
  | tag (handle suffix : String)
  | scalar (text : String) (style : Style)
  | streamEnd
  deriving DecidableEq

structure Position where
  index : Nat
  line : Nat
  column : Nat

def Position.past (position : Position) (c : Char) : Position :=
  if isBreak c then ⟨position.index + 1, position.line + 1, 0⟩
  else ⟨position.index + 1, position.line, position.column + 1⟩

/-- A place where a mapping key may have begun. -/
structure KeyPlace where
  /-- Whether nothing but a key can stand there. -/
  required : Bool
  before : Nat
  position : Position

/-- A key that begins at `place` is on one line and has at most 1024 characters. -/
def KeyPlace.isStale (place : KeyPlace) (position : Position) : Bool :=
  place.position.line < position.line || place.position.index + 1024 < position.index

structure TokenState where
  position : Position
  /-- The last token first. -/
  tokens : List Token
  indents : List Nat
  /-- Where a key may have begun in the innermost flow collection. -/
  key? : Option KeyPlace
  /-- The same for the collections around it, and last for the block around all. -/
  outer : List (Option KeyPlace)
  /-- Whether a key may begin here. -/
  keyAllowed : Bool

namespace TokenState

def start : TokenState := ⟨⟨0, 0, 0⟩, [], [], none, [], true⟩

def inFlow (state : TokenState) : Bool := !state.outer.isEmpty

def column (state : TokenState) : Nat := state.position.column

def push (state : TokenState) (token : Token) : TokenState :=
  { state with tokens := token :: state.tokens }

def insert (state : TokenState) (before : Nat) (token : Token) : TokenState :=
  let behind := state.tokens.length - before
  { state with tokens := state.tokens.take behind ++ token :: state.tokens.drop behind }

def moveTo (state : TokenState) (cs rest : List Char) : TokenState :=
  { state with
    position := (cs.take (cs.length - rest.length)).foldl Position.past state.position }

/-! ### Blocks -/

def closeBlocks (state : TokenState) (deeper : Nat → Bool) : TokenState :=
  let closed := state.indents.takeWhile deeper
  { state with
    indents := state.indents.drop closed.length
    tokens := closed.map (fun _ => .blockEnd) ++ state.tokens }

def unroll (state : TokenState) : TokenState :=
  if state.inFlow then state else state.closeBlocks (state.column < ·)

/-- Opens a block at a column behind the first `before` tokens, unless it is open already. -/
def roll (state : TokenState) (column before : Nat) (token : Token) : TokenState :=
  if !state.inFlow && state.indents.head?.all (· < column) then
    { state.insert before token with indents := column :: state.indents }
  else state

/-! ### Places of keys -/

/-- Gives up the place of a key, which must not be a required one. -/
def dropKey? (state : TokenState) : Option TokenState :=
  if state.key?.any (·.required) then none else some { state with key? := none }

def saveKey? (state : TokenState) : Option TokenState :=
  if state.keyAllowed then
    state.dropKey?.map fun state =>
      { state with
        key? := some ⟨!state.inFlow && state.indents.head? = some state.column,
          state.tokens.length, state.position⟩ }
  else some state

/-- A place that is no longer possible; it must not be a required one. -/
def refresh? (position : Position) (key? : Option KeyPlace) : Option (Option KeyPlace) :=
  match key? with
  | some place =>
    if !place.isStale position then some (some place)
    else if place.required then none
    else some none
  | none => some none

def refreshKeys? (state : TokenState) : Option TokenState := do
  let key? ← refresh? state.position state.key?
  let outer ← state.outer.mapM (refresh? state.position)
  return { state with key? := key?, outer := outer }

end TokenState

abbrev TokenStep := Option (TokenState × List Char)

/-! ### Directives -/

def isWordChar (c : Char) : Bool := c.isAlphanum || c = '_' || c = '-'

def versionNumber? (cs : List Char) : Option (Nat × List Char) :=
  let digits := cs.takeWhile Char.isDigit
  if digits.isEmpty || 9 < digits.length then none
  else some (digits.foldl (fun n c => 10 * n + (c.toNat - '0'.toNat)) 0, cs.drop digits.length)

def version? (cs : List Char) : Option (Token × List Char) := do
  let (major, cs) ← versionNumber? (cs.dropWhile isBlank)
  match cs with
  | '.' :: cs =>
    let (minor, cs) ← versionNumber? cs
    return (.version major minor, cs)
  | _ => none

def leadingOctet? (octet : Nat) : Option (Nat × Nat) :=
  if octet < 0x80 then some (1, octet)
  else if 0xC0 ≤ octet ∧ octet < 0xE0 then some (2, octet % 0x20)
  else if 0xE0 ≤ octet ∧ octet < 0xF0 then some (3, octet % 0x10)
  else if 0xF0 ≤ octet ∧ octet < 0xF8 then some (4, octet % 0x08)
  else none

def octet? : List Char → Option (Nat × List Char)
  | '%' :: a :: b :: rest => do
    let high ← Json.hexValue? a
    let low ← Json.hexValue? b
    return (16 * high + low, rest)
  | _ => none

def trailingOctets? : Nat → Nat → List Char → Option (Char × List Char)
  | 0, code, cs => some (Char.ofNat code, cs)
  | count + 1, code, cs => do
    let (octet, cs) ← octet? cs
    if 0x80 ≤ octet ∧ octet < 0xC0 then trailingOctets? count (64 * code + octet % 64) cs
    else none

def octetChar? (cs : List Char) : Option (Char × List Char) := do
  let (octet, cs) ← octet? cs
  let (count, code) ← leadingOctet? octet
  trailingOctets? (count - 1) code cs

def isUriChar (verbatim : Bool) (c : Char) : Bool :=
  isWordChar c || ";/?:@&=+$.!~*'()".toList.contains c || (verbatim && [',', '[', ']'].contains c)

/-- The characters of an identifier, and what follows it; `done` is reversed. -/
def uri? (verbatim : Bool) (done cs : List Char) : Option (List Char × List Char) :=
  match cs with
  | [] => some (done.reverse, [])
  | c :: rest =>
    if c = '%' then
      match octetChar? (c :: rest) with
      | none => none
      | some (d, next) =>
        if next.length < rest.length + 1 then uri? verbatim (d :: done) next else none
    else if isUriChar verbatim c then uri? verbatim (c :: done) rest
    else some (done.reverse, c :: rest)
termination_by cs.length

/-- An exclamation mark, and a word with another one behind it if there is that. -/
def handle (cs : List Char) : List Char × List Char :=
  let word := cs.takeWhile isWordChar
  match cs.drop word.length with
  | '!' :: rest => ('!' :: word ++ ['!'], rest)
  | rest => ('!' :: word, rest)

def handleMeaning? (cs : List Char) : Option (Token × List Char) :=
  match cs.dropWhile isBlank with
  | '!' :: cs => do
    let (name, rest) := handle cs
    if name.getLast? ≠ some '!' then none
    else
      match rest with
      | c :: _ =>
        let (meaning, rest) ← uri? true [] (rest.dropWhile isBlank)
        if isBlank c && !meaning.isEmpty && atSpace rest then
          return (.handle (String.ofList name) (String.ofList meaning), rest)
        else none
      | [] => none
  | _ => none

def directive? (state : TokenState) (cs : List Char) : TokenStep := do
  let state ← (state.closeBlocks fun _ => true).dropKey?
  let name := cs.takeWhile isWordChar
  let rest := cs.drop name.length
  if !atSpace rest then none
  else
    let (token, rest) ←
      if name = ['Y', 'A', 'M', 'L'] then version? rest
      else if name = ['T', 'A', 'G'] then handleMeaning? rest
      else none
    let rest ← lineEnd? rest
    return ({ state with keyAllowed := false }.push token, rest)

/-! ### Properties -/

def anchorName? (cs : List Char) : Option (String × List Char) :=
  let name := cs.takeWhile isWordChar
  let rest := cs.drop name.length
  let ends : Bool := match rest with
    | c :: _ => isSpace c || ['?', ':', ',', ']', '}', '%', '@'].contains c || c.toNat = 0x60
    | [] => true
  if name.isEmpty || !ends then none else some (String.ofList name, rest)

/-- A tag behind its exclamation mark. The mark alone is a tag without a handle. -/
def tag? (cs : List Char) : Option (Token × List Char) :=
  match cs with
  | '<' :: cs => do
    let (suffix, rest) ← uri? true [] cs
    match rest with
    | '>' :: rest =>
      if suffix.isEmpty then none else return (.tag "" (String.ofList suffix), rest)
    | _ => none
  | cs => do
    let (name, rest) := handle cs
    if name.length ≠ 1 && name.getLast? = some '!' then
      let (suffix, rest) ← uri? false [] rest
      if suffix.isEmpty then none
      else return (.tag (String.ofList name) (String.ofList suffix), rest)
    else
      let (suffix, rest) ← uri? false name.tail.reverse rest
      if suffix.isEmpty then return (.tag "" "!", rest)
      else return (.tag "!" (String.ofList suffix), rest)

def tagStep? (state : TokenState) (cs : List Char) : TokenStep := do
  let state ← state.saveKey?
  let (token, rest) ← tag? cs
  let ends := atSpace rest || (state.inFlow && rest.head? = some ',')
  if ends then return ({ state with keyAllowed := false }.push token, rest) else none

def anchorStep? (state : TokenState) (token : String → Token) (cs : List Char) : TokenStep := do
  let state ← state.saveKey?
  let (name, rest) ← anchorName? cs
  return ({ state with keyAllowed := false }.push (token name), rest)

/-! ### Marks -/

def documentMark? (state : TokenState) (token : Token) (cs : List Char) : TokenStep := do
  let state ← (state.closeBlocks fun _ => true).dropKey?
  return ({ state with keyAllowed := false }.push token, cs.drop 3)

def flowStart? (state : TokenState) (token : Token) (rest : List Char) : TokenStep :=
  state.saveKey?.map fun state =>
    ({ state with key? := none, outer := state.key? :: state.outer, keyAllowed := true }.push
      token, rest)

def flowEnd? (state : TokenState) (token : Token) (rest : List Char) : TokenStep :=
  state.dropKey?.map fun state =>
    let state := match state.outer with
      | key? :: outer => { state with key? := key?, outer := outer }
      | [] => state
    ({ state with keyAllowed := false }.push token, rest)

def flowEntry? (state : TokenState) (rest : List Char) : TokenStep :=
  state.dropKey?.map fun state => ({ state with keyAllowed := true }.push .flowEntry, rest)

def openBlock? (state : TokenState) (token : Token) : Option TokenState :=
  if state.inFlow then some state
  else if state.keyAllowed then some (state.roll state.column state.tokens.length token)
  else none

def blockEntry? (state : TokenState) (rest : List Char) : TokenStep := do
  let state ← (← openBlock? state .blockSequence).dropKey?
  return ({ state with keyAllowed := true }.push .blockEntry, rest)

def keyMark? (state : TokenState) (rest : List Char) : TokenStep := do
  let state ← (← openBlock? state .blockMapping).dropKey?
  return ({ state with keyAllowed := !state.inFlow }.push .key, rest)

/-- A colon makes a key of what began at the place kept in mind. -/
def valueMark? (state : TokenState) (rest : List Char) : TokenStep :=
  match state.key? with
  | some place =>
    let state := { state.insert place.before .key with key? := none, keyAllowed := false }
    some ((state.roll place.position.column place.before .blockMapping).push .value, rest)
  | none => do
    let state ← openBlock? state .blockMapping
    return ({ state with keyAllowed := !state.inFlow }.push .value, rest)

/-! ### Scalars -/

def blockScalar? (state : TokenState) (folded : Bool) (cs : List Char) : TokenStep := do
  let state ← state.dropKey?
  let (text, rest) ← block? folded state.indents.head? cs
  let style := if folded then Style.other else .literal
  return ({ state with keyAllowed := true }.push (.scalar text style), rest)

def quotedScalar? (state : TokenState) (part? : List Char → Option QuotedPart)
    (cs : List Char) : TokenStep := do
  let state ← state.saveKey?
  let (text, rest) ← quoted? part? [] .closed cs
  return ({ state with keyAllowed := false }.push (.scalar text .other), rest)

def plainScalar? (state : TokenState) (cs : List Char) : TokenStep := do
  let state ← state.saveKey?
  let indent := (state.indents.head?.map (· + 1)).getD 0
  let (text, gap, rest) ← plain? state.inFlow indent [] .closed cs
  return ({ state with keyAllowed := gap.column?.isSome }.push
    (.scalar (String.ofList text.reverse) .plain), rest)

def beginsPlain (inFlow : Bool) (c : Char) (rest : List Char) : Bool :=
  if c = '-' then !(rest.head?.any isBlank)
  else if c = '?' || c = ':' then !inFlow && !atSpace rest
  else !isBlank c && !",[]\x7b\x7d#&*!|>'\"%@".toList.contains c && c.toNat ≠ 0x60

/-! ### Documents -/

/-- Skips blanks, comments and line breaks; also says whether a key may begin behind them. A tab
is no blank where a key may begin in a block. -/
def skipSpace (inFlow keyAllowed : Bool) (cs : List Char) : Bool × List Char :=
  let rest := cs.dropWhile fun c => c = ' ' || ((inFlow || !keyAllowed) && c = '\t')
  let rest := match rest with
    | '#' :: _ => rest.dropWhile fun c => !isBreak c
    | rest => rest
  match rest with
  | [] => (keyAllowed, [])
  | c :: next =>
    if isBreak c && next.length < cs.length then skipSpace inFlow (keyAllowed || !inFlow) next
    else (keyAllowed, c :: next)
termination_by cs.length
decreasing_by simp_all

def token? (state : TokenState) (c : Char) (rest : List Char) : TokenStep :=
  if state.column = 0 && c = '%' then directive? state rest
  else if state.column = 0 && atTriple '-' (c :: rest) then
    documentMark? state .documentStart (c :: rest)
  else if state.column = 0 && atTriple '.' (c :: rest) then
    documentMark? state .documentEnd (c :: rest)
  else if c = '-' && atSpace rest then blockEntry? state rest
  else if c = '?' && (state.inFlow || atSpace rest) then keyMark? state rest
  else if c = ':' && (state.inFlow || atSpace rest) then valueMark? state rest
  else
    match c with
    | '[' => flowStart? state .flowSequence rest
    | '{' => flowStart? state .flowMapping rest
    | ']' => flowEnd? state .flowSequenceEnd rest
    | '}' => flowEnd? state .flowMappingEnd rest
    | ',' => flowEntry? state rest
    | '*' => anchorStep? state .reference rest
    | '&' => anchorStep? state .anchor rest
    | '!' => tagStep? state rest
    | '\'' => quotedScalar? state singlePart? rest
    | '"' => quotedScalar? state doublePart? rest
    | c =>
      if c = '|' && !state.inFlow then blockScalar? state false rest
      else if c = '>' && !state.inFlow then blockScalar? state true rest
      else if beginsPlain state.inFlow c rest then plainScalar? state (c :: rest)
      else none

def tokensFrom? (state : TokenState) (cs : List Char) : Option (List Token) :=
  let (keyAllowed, rest) := skipSpace state.inFlow state.keyAllowed cs
  match ({ state.moveTo cs rest with keyAllowed := keyAllowed }).refreshKeys? with
  | none => none
  | some state =>
    match rest with
    | [] => (state.closeBlocks fun _ => true).dropKey?.map fun state =>
        (state.push .streamEnd).tokens.reverse
    | c :: more =>
      match token? state.unroll c more with
      | none => none
      | some (next, tail) =>
        if tail.length < cs.length then tokensFrom? (next.moveTo (c :: more) tail) tail else none
termination_by cs.length

/-- The tokens of a document. A byte order mark in front of it is skipped. -/
def tokens? (text : String) : Option (List Token) :=
  let cs := match text.toList with
    | '\ufeff' :: rest => rest
    | cs => cs
  if cs.all isPrintable then tokensFrom? .start (unifyBreaks cs) else none

end StageThree.Yaml
