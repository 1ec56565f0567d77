import StageThree.Json.Literal

/-!
The lexer is a machine that takes one character at a time; a text is lexed by folding the machine
over it. Blanks are space, tab, line feed and carriage return. A string holds no raw control
character, and an escaped surrogate comes in a pair.
-/

namespace StageThree

namespace Json

inductive Token where
  | openArray
  | closeArray
  | openObject
  | closeObject
  | colon
  | comma
  | scalar (value : Json)

/-- What the machine is in the middle of. Texts collected so far are reversed. -/
inductive LexMode where
  | between
  | word (text : List Char)
  | number (text : List Char)
  | string (text : List Char)
  | escape (text : List Char)
  /-- Inside `\uXXXX`: the leading surrogate that went before, the digits left to read and their
  value so far. -/
  | unicode (text : List Char) (leading : Option Nat) (missing : Nat) (value : Nat)
  /-- After a leading surrogate: the next escape has to follow. -/
  | paired (text : List Char) (leading : Nat)
  | pairedEscape (text : List Char) (leading : Nat)

structure LexState where
  tokens : List Token
  mode : LexMode

def isBlank (c : Char) : Bool := c = ' ' || c = '\t' || c = '\n' || c = '\r'

def isNumeralChar (c : Char) : Bool :=
  c.isDigit || c = '-' || c = '+' || c = '.' || c = 'e' || c = 'E'

def hexValue? (c : Char) : Option Nat :=
  if c.isDigit then some (c.toNat - '0'.toNat)
  else if 'a' ≤ c && c ≤ 'f' then some (c.toNat - 'a'.toNat + 10)
  else if 'A' ≤ c && c ≤ 'F' then some (c.toNat - 'A'.toNat + 10)
  else none

def wordValue? (word : List Char) : Option Json :=
  if word = ['n', 'u', 'l', 'l'] then some .null
  else if word = ['t', 'r', 'u', 'e'] then some (.bool true)
  else if word = ['f', 'a', 'l', 's', 'e'] then some (.bool false)
  else none

def escaped? (c : Char) : Option Char :=
  match c with
  | '"' => some '"'
  | '\\' => some '\\'
  | '/' => some '/'
  | 'b' => some '\x08'
  | 'f' => some '\x0c'
  | 'n' => some '\n'
  | 'r' => some '\r'
  | 't' => some '\t'
  | _ => none

def lexBetween (tokens : List Token) (c : Char) : Option LexState :=
  if isBlank c then some ⟨tokens, .between⟩
  else match c with
  | '[' => some ⟨.openArray :: tokens, .between⟩
  | ']' => some ⟨.closeArray :: tokens, .between⟩
  | '{' => some ⟨.openObject :: tokens, .between⟩
  | '}' => some ⟨.closeObject :: tokens, .between⟩
  | ':' => some ⟨.colon :: tokens, .between⟩
  | ',' => some ⟨.comma :: tokens, .between⟩
  | '"' => some ⟨tokens, .string []⟩
  | c =>
    if c = '-' || c.isDigit then some ⟨tokens, .number [c]⟩
    else if c.isLower then some ⟨tokens, .word [c]⟩
    else none

def finishScalar (tokens : List Token) : LexMode → Option (List Token)
  | .between => some tokens
  | .word text => (wordValue? text.reverse).map fun v => .scalar v :: tokens
  | .number text =>
    ((Numeral.ofChars? text.reverse).bind Numeral.number?).map fun n =>
      .scalar (.number n) :: tokens
  | _ => none

def lexUnicode (tokens : List Token) (text : List Char) (leading : Option Nat) (unit : Nat) :
    Option LexState :=
  match leading with
  | some high =>
    if 0xDC00 ≤ unit ∧ unit < 0xE000 then
      some ⟨tokens, .string
        (Char.ofNat (0x10000 + (high - 0xD800) * 0x400 + (unit - 0xDC00)) :: text)⟩
    else none
  | none =>
    if 0xD800 ≤ unit ∧ unit < 0xDC00 then some ⟨tokens, .paired text unit⟩
    else if 0xDC00 ≤ unit ∧ unit < 0xE000 then none
    else some ⟨tokens, .string (Char.ofNat unit :: text)⟩

def lexStep (state : LexState) (c : Char) : Option LexState :=
  match state.mode with
  | .between => lexBetween state.tokens c
  | .word text =>
    if c.isLower then some ⟨state.tokens, .word (c :: text)⟩
    else (finishScalar state.tokens state.mode).bind fun tokens => lexBetween tokens c
  | .number text =>
    if isNumeralChar c then some ⟨state.tokens, .number (c :: text)⟩
    else (finishScalar state.tokens state.mode).bind fun tokens => lexBetween tokens c
  | .string text =>
    if c = '"' then some ⟨.scalar (.string (String.ofList text.reverse)) :: state.tokens, .between⟩
    else if c = '\\' then some ⟨state.tokens, .escape text⟩
    else if c.toNat < 0x20 then none
    else some ⟨state.tokens, .string (c :: text)⟩
  | .escape text =>
    if c = 'u' then some ⟨state.tokens, .unicode text none 4 0⟩
    else (escaped? c).map fun d => ⟨state.tokens, .string (d :: text)⟩
  | .unicode text leading missing value =>
    (hexValue? c).bind fun digit =>
      if missing ≤ 1 then lexUnicode state.tokens text leading (16 * value + digit)
      else some ⟨state.tokens, .unicode text leading (missing - 1) (16 * value + digit)⟩
  | .paired text leading =>
    if c = '\\' then some ⟨state.tokens, .pairedEscape text leading⟩ else none
  | .pairedEscape text leading =>
    if c = 'u' then some ⟨state.tokens, .unicode text (some leading) 4 0⟩ else none

def lex? (text : List Char) : Option (List Token) := do
  let state ← text.foldlM lexStep ⟨[], .between⟩
  let tokens ← finishScalar state.tokens state.mode
  return tokens.reverse

end Json

end StageThree
