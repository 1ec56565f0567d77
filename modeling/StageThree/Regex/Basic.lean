import StageThree.Regex.CharSet

/-!
Regular expressions over a text. Whether a text matches is all that matters, so an expression
denotes how it moves through the text: a cursor is a place in the text, and `Regex.advance` takes
the cursors where an expression may begin to the cursors where it may then have ended.
-/

namespace StageThree

/-- A place in a text: how far it is, the character before it and the text after it. -/
structure Cursor where
  offset : Nat
  before? : Option Char
  rest : List Char
  deriving DecidableEq

namespace Cursor

def start (text : List Char) : Cursor := ⟨0, none, text⟩

def after? (cursor : Cursor) : Option Char := cursor.rest.head?

def step? (set : CharSet) (cursor : Cursor) : Option Cursor :=
  match cursor.rest with
  | [] => none
  | c :: rest => if set.contains c then some ⟨cursor.offset + 1, some c, rest⟩ else none

def onward (offset : Nat) (before? : Option Char) : List Char → List Cursor
  | [] => [⟨offset, before?, []⟩]
  | c :: rest => ⟨offset, before?, c :: rest⟩ :: onward (offset + 1) (some c) rest

def all (text : List Char) : List Cursor := onward 0 none text

def longest (cursors : List Cursor) : Nat :=
  cursors.foldl (fun n cursor => max n cursor.rest.length) 0

end Cursor

inductive Look where
  | textStart
  | textEnd
  | lineStart
  | lineEnd
  /-- The start of a line; lines end with a line feed, a carriage return or both. -/
  | anyLineStart
  | anyLineEnd
  /-- A condition on whether the characters before and after are word characters. -/
  | word (set : CharSet) (accepts : Bool → Bool → Bool)

namespace Look

def holds (cursor : Cursor) : Look → Bool
  | textStart => cursor.before?.isNone
  | textEnd => cursor.rest.isEmpty
  | lineStart => cursor.before?.isNone || cursor.before? == some '\n'
  | lineEnd => cursor.rest.isEmpty || cursor.after? == some '\n'
  | anyLineStart =>
    cursor.before?.isNone || cursor.before? == some '\n' ||
      (cursor.before? == some '\r' && cursor.after? != some '\n')
  | anyLineEnd =>
    cursor.rest.isEmpty || cursor.after? == some '\r' ||
      (cursor.after? == some '\n' && cursor.before? != some '\r')
  | word set accepts =>
    accepts (cursor.before?.any set.contains) (cursor.after?.any set.contains)

end Look

inductive Regex where
  | empty
  | one (set : CharSet)
  | look (condition : Look)
  | seq (first second : Regex)
  | alt (left right : Regex)
  | repeated (body : Regex) (least : Nat) (most? : Option Nat)
  deriving Inhabited

namespace Regex

/-- The cursors reached from `frontier` in at most so many steps, besides those known. -/
def reach (step : List Cursor → List Cursor) : Nat → List Cursor → List Cursor → List Cursor
  | 0, known, _ => known
  | n + 1, known, frontier =>
    let fresh := ((step frontier).filter fun cursor => !known.contains cursor).eraseDups
    if fresh.isEmpty then known else reach step n (known ++ fresh) fresh

def times (step : List Cursor → List Cursor) : Nat → List Cursor → List Cursor
  | 0, cursors => cursors
  | n + 1, cursors => times step n (step cursors).eraseDups

/-- Where the expression may have ended when it may begin at any of the cursors. More rounds than
the text has characters add nothing to a repetition. -/
def advance : Regex → List Cursor → List Cursor
  | empty, cursors => cursors
  | one set, cursors => cursors.filterMap (Cursor.step? set)
  | look condition, cursors => cursors.filter fun cursor => condition.holds cursor
  | seq first second, cursors => second.advance (first.advance cursors)
  | alt left right, cursors => (left.advance cursors ++ right.advance cursors).eraseDups
  | repeated body least most?, cursors =>
    let rounds := Cursor.longest cursors + 1
    let begun := times body.advance (min least rounds) cursors
    reach body.advance (match most? with | none => rounds | some most => min (most - least) rounds)
      begun begun

def isMatch (regex : Regex) (text : String) : Bool :=
  !(regex.advance (Cursor.all text.toList)).isEmpty

def seqAll : List Regex → Regex
  | [] => empty
  | regex :: rest => seq regex (seqAll rest)

def altAll (first : Regex) : List Regex → Regex
  | [] => first
  | second :: rest => alt first (altAll second rest)

end Regex

end StageThree
