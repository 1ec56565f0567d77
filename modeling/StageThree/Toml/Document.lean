import StageThree.Toml.Scalar
import StageThree.Toml.Text
import StageThree.Toml.Tree

/-!
Documents. A document is read from left to right with a stack of the values that are still open.
Line breaks end a statement, but are blanks inside of arrays and inline tables.
-/

namespace StageThree.Toml

def maxDepth : Nat := 80

/-- A value that waits for a part; what is complete is reversed. -/
inductive Frame where
  | assignment (path : List String) (name : String)
  | items (done : List Toml)
  | inline (done : Tree)
  | field (done : Tree) (path : List String) (name : String)

inductive Phase where
  | statement
  | lineEnd
  | value
  /-- A value of an array is due, or the end of the array. -/
  | item
  | name
  | rest

structure State where
  root : Tree
  /-- The table that assignments go to. -/
  header : List String
  stack : List Frame
  phase : Phase

namespace State

def start : State := ⟨.table .defined [], [], [], .statement⟩

def complete? (state : State) (value : Toml) : Option State :=
  match state.stack with
  | .assignment path name :: stack =>
    (state.root.change? .implied (Tree.assign? path name value) state.header).map fun root =>
      { state with root := root, stack := stack, phase := .lineEnd }
  | .items done :: stack =>
    some { state with stack := .items (value :: done) :: stack, phase := .rest }
  | .field done path name :: stack =>
    (done.assign? path name value).map fun done =>
      { state with stack := .inline done :: stack, phase := .rest }
  | _ => none

def open? (state : State) (frame : Frame) (phase : Phase) : Option State :=
  if state.stack.length ≤ maxDepth then
    some { state with stack := frame :: state.stack, phase := phase }
  else none

def close? (state : State) (mark : Char) : Option State :=
  match state.stack with
  | .items done :: stack =>
    if mark = ']' then { state with stack := stack }.complete? (.array done.reverse) else none
  | .inline done :: stack =>
    if mark = '}' then { state with stack := stack }.complete? done.toToml else none
  | _ => none

end State

abbrev Step := Option (State × List Char)

def quoted? (state : State) (read : Option (String × List Char)) : Step := do
  let (text, rest) ← read
  return (← state.complete? (.string text), rest)

def endsScalar (c : Char) : Bool :=
  [' ', '\t', '\n', '\r', '#', ',', '[', ']', '{', '}', '='].contains c

/-- A scalar without quotes; a date and the time behind it may have a space between them. -/
def unquoted? (state : State) (cs : List Char) : Step := do
  let word := cs.takeWhile fun c => !endsScalar c
  let rest := cs.drop word.length
  let word := match rest with
    | ' ' :: c :: more =>
      if isDate word && c.isDigit then
        word ++ ' ' :: (c :: more).takeWhile fun c => !endsScalar c
      else word
    | _ => word
  return (← state.complete? (← scalar? word), cs.drop word.length)

def value? (state : State) (cs : List Char) : Step :=
  match cs with
  | '"' :: '"' :: '"' :: rest => quoted? state (lines? basicLinesStep? rest)
  | '\'' :: '\'' :: '\'' :: rest => quoted? state (lines? literalLinesStep? rest)
  | '"' :: rest => quoted? state (text? basicStep? [] rest)
  | '\'' :: rest => quoted? state (text? literalStep? [] rest)
  | '[' :: rest => (state.open? (.items []) .item).map (·, rest)
  | '{' :: rest => (state.open? (.inline (.table .defined [])) .name).map (·, rest)
  | cs => unquoted? state cs

/-- What follows the equals sign that is due here, blanks included. -/
def equals? (cs : List Char) : Option (List Char) :=
  match cs with
  | '=' :: rest => some (skipBlanks rest)
  | _ => none

def header? (state : State) (isArray : Bool) (cs : List Char) : Step := do
  let ((path, name), rest) ← key? [] (skipBlanks cs)
  let root ← if isArray then state.root.append? path name else state.root.define? path name
  let state := { state with root := root, header := path ++ [name], phase := .lineEnd }
  match isArray, rest with
  | true, ']' :: ']' :: rest => some (state, rest)
  | false, ']' :: rest => some (state, rest)
  | _, _ => none

def statement? (state : State) (cs : List Char) : Step :=
  match cs with
  | [] => some (state, [])
  | '[' :: '[' :: rest => header? state true rest
  | '[' :: rest => header? state false rest
  | cs => do
    let ((path, name), rest) ← key? [] cs
    let rest ← equals? rest
    return ({ state with stack := [.assignment path name], phase := .value }, rest)

def item? (state : State) (cs : List Char) : Step :=
  match cs with
  | ']' :: rest => (state.close? ']').map (·, rest)
  | cs => value? state cs

def inlineField? (state : State) (cs : List Char) : Step :=
  match cs, state.stack with
  | '}' :: rest, _ => (state.close? '}').map (·, rest)
  | cs, .inline done :: stack => do
    let ((path, name), rest) ← key? [] cs
    let rest ← equals? rest
    return ({ state with stack := .field done path name :: stack, phase := .value }, rest)
  | _, _ => none

def separator? (state : State) (cs : List Char) : Step :=
  match cs, state.stack with
  | ',' :: rest, .items _ :: _ => some ({ state with phase := .item }, rest)
  | ',' :: rest, .inline _ :: _ => some ({ state with phase := .name }, rest)
  | c :: rest, _ => (state.close? c).map (·, rest)
  | [], _ => none

def step? (state : State) (cs : List Char) : Step :=
  match state.phase with
  | .statement => (skipLines? cs).bind (statement? state)
  | .lineEnd => do
    let rest ← skipComment? (skipBlanks cs)
    let rest ← if rest.isEmpty then some rest else lineBreak? rest
    return ({ state with phase := .statement }, rest)
  | .value => value? state cs
  | .item => (skipLines? cs).bind (item? state)
  | .name => (skipLines? cs).bind (inlineField? state)
  | .rest => (skipLines? cs).bind (separator? state)

def run? (state : State) (cs : List Char) : Option State :=
  match cs with
  | [] => some state
  | c :: cs =>
    match step? state (c :: cs) with
    | none => none
    | some (state, rest) => if rest.length < cs.length + 1 then run? state rest else none
termination_by cs.length

/-- The table of a document; a byte order mark in front of it is skipped. -/
def parse? (text : String) : Option Toml := do
  let cs := match text.toList with
    | '\ufeff' :: rest => rest
    | cs => cs
  let state ← run? .start cs
  if state.stack.isEmpty then some state.root.toToml else none

end StageThree.Toml
