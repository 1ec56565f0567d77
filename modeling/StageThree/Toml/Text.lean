import StageThree.Json.Lexer

/-!
Quoted texts, keys, and the blanks and comments between them. Every reader takes the characters
behind what it knows already and gives those behind what it has read.
-/

namespace StageThree.Toml

def isPlain (c : Char) : Bool := c = '\t' || (0x20 ≤ c.toNat && c.toNat ≠ 0x7F)

def isBlank (c : Char) : Bool := c = ' ' || c = '\t'

def skipBlanks (cs : List Char) : List Char := cs.dropWhile isBlank

def lineBreak? : List Char → Option (List Char)
  | '\n' :: rest => some rest
  | '\r' :: '\n' :: rest => some rest
  | _ => none

/-! ### Quoted texts -/

inductive TextStep where
  | more (part rest : List Char)
  | closed (part rest : List Char)

def text? (step? : List Char → Option TextStep) (done cs : List Char) :
    Option (String × List Char) :=
  match step? cs with
  | none => none
  | some (.closed part rest) => some (String.ofList (done.reverse ++ part), rest)
  | some (.more part rest) =>
    if rest.length < cs.length then text? step? (part.reverse ++ done) rest else none
termination_by cs.length

def codeChar? (code : Nat) : Option Char :=
  if code < 0xD800 ∨ (0xDFFF < code ∧ code < 0x110000) then some (Char.ofNat code) else none

def hexChar? (count : Nat) (cs : List Char) : Option TextStep := do
  let digits ← (cs.take count).mapM Json.hexValue?
  if digits.length = count then
    let c ← codeChar? (digits.foldl (fun n d => 16 * n + d) 0)
    return .more [c] (cs.drop count)
  else none

def escape? : List Char → Option TextStep
  | 'b' :: rest => some (.more ['\x08'] rest)
  | 't' :: rest => some (.more ['\t'] rest)
  | 'n' :: rest => some (.more ['\n'] rest)
  | 'f' :: rest => some (.more ['\x0c'] rest)
  | 'r' :: rest => some (.more ['\r'] rest)
  | 'e' :: rest => some (.more ['\x1b'] rest)
  | '"' :: rest => some (.more ['"'] rest)
  | '\\' :: rest => some (.more ['\\'] rest)
  | 'x' :: rest => hexChar? 2 rest
  | 'u' :: rest => hexChar? 4 rest
  | 'U' :: rest => hexChar? 8 rest
  | _ => none

def basicStep? : List Char → Option TextStep
  | '"' :: rest => some (.closed [] rest)
  | '\\' :: rest => escape? rest
  | c :: rest => if isPlain c then some (.more [c] rest) else none
  | [] => none

def literalStep? : List Char → Option TextStep
  | '\'' :: rest => some (.closed [] rest)
  | c :: rest => if isPlain c then some (.more [c] rest) else none
  | [] => none

/-- A row of quotes in a text of several lines: three of them close it, and up to two before the
closing ones belong to the text. -/
def quotes (quote : Char) (cs : List Char) : TextStep :=
  let count := min 5 (cs.takeWhile (· = quote)).length
  if count < 3 then .more (List.replicate count quote) (cs.drop count)
  else .closed (List.replicate (count - 3) quote) (cs.drop count)

/-- A line break keeps its spelling. -/
def lineStep? (cs : List Char) : Option TextStep :=
  (lineBreak? cs).map fun rest => .more (cs.take (cs.length - rest.length)) rest

/-- A backslash at the end of a line joins it to the next text. -/
def joined? (cs : List Char) : Option TextStep :=
  (lineBreak? (skipBlanks cs)).map fun rest =>
    .more [] (rest.dropWhile fun c => isBlank c || c = '\n' || c = '\r')

def basicLinesStep? (cs : List Char) : Option TextStep :=
  match cs with
  | '"' :: _ => some (quotes '"' cs)
  | '\\' :: rest => (joined? rest).orElse fun _ => escape? rest
  | c :: rest => if isPlain c then some (.more [c] rest) else lineStep? cs
  | [] => none

def literalLinesStep? (cs : List Char) : Option TextStep :=
  match cs with
  | '\'' :: _ => some (quotes '\'' cs)
  | c :: rest => if isPlain c then some (.more [c] rest) else lineStep? cs
  | [] => none

/-- A text of several lines; a line break right at its beginning is not part of it. -/
def lines? (step? : List Char → Option TextStep) (cs : List Char) : Option (String × List Char) :=
  text? step? [] ((lineBreak? cs).getD cs)

/-! ### Keys -/

def isBare (c : Char) : Bool := c.isAlphanum || c = '_' || c = '-'

def name? (cs : List Char) : Option (String × List Char) :=
  match cs with
  | '"' :: rest => text? basicStep? [] rest
  | '\'' :: rest => text? literalStep? [] rest
  | cs =>
    let name := cs.takeWhile isBare
    if name.isEmpty then none else some (String.ofList name, cs.dropWhile isBare)

/-- Names with points between them: the last one, and the path to it. -/
def key? (path : List String) (cs : List Char) : Option ((List String × String) × List Char) :=
  match name? cs with
  | none => none
  | some (name, rest) =>
    match skipBlanks rest with
    | '.' :: more =>
      let next := skipBlanks more
      if next.length < cs.length then key? (name :: path) next else none
    | rest => some ((path.reverse, name), rest)
termination_by cs.length

/-! ### Between values -/

def skipComment? (cs : List Char) : Option (List Char) :=
  match cs with
  | '#' :: rest =>
    let rest := rest.dropWhile isPlain
    if rest.isEmpty || (lineBreak? rest).isSome then some rest else none
  | cs => some cs

def skipLines? (cs : List Char) : Option (List Char) :=
  match skipComment? (skipBlanks cs) with
  | none => none
  | some rest =>
    match lineBreak? rest with
    | none => some rest
    | some next => if next.length < cs.length then skipLines? next else none
termination_by cs.length

end StageThree.Toml
