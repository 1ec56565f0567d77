import StageThree.Json.Lexer

/-!
The parser is a machine over tokens with a stack of open containers. It accepts exactly one value,
nested at most `maxDepth` containers deep.
-/

namespace StageThree

namespace Json

def maxDepth : Nat := 127

/-- An open container; what is already inside is reversed. -/
inductive Frame where
  | items (done : List Json)
  | fields (done : List (String × Json))
  | field (done : List (String × Json)) (name : String)

inductive Phase where
  /-- A value is due; right after `[` the container may close instead. -/
  | value (closable : Bool)
  /-- A name is due; right after an opening brace the container may close instead. -/
  | name (closable : Bool)
  | colon
  | rest
  | finished (value : Json)

structure ParseState where
  stack : List Frame
  phase : Phase

def complete (value : Json) : List Frame → Option ParseState
  | [] => some ⟨[], .finished value⟩
  | .items done :: stack => some ⟨.items (value :: done) :: stack, .rest⟩
  | .field done name :: stack => some ⟨.fields ((name, value) :: done) :: stack, .rest⟩
  | .fields _ :: _ => none

def openFrame (stack : List Frame) (frame : Frame) (phase : Phase) : Option ParseState :=
  if stack.length < maxDepth then some ⟨frame :: stack, phase⟩ else none

def closeArray : List Frame → Option ParseState
  | .items done :: stack => complete (.array done.reverse) stack
  | _ => none

def closeObject : List Frame → Option ParseState
  | .fields done :: stack => complete (.object done.reverse) stack
  | _ => none

def parseStep (state : ParseState) (token : Token) : Option ParseState :=
  match state.phase, token with
  | .value _, .scalar value => complete value state.stack
  | .value _, .openArray => openFrame state.stack (.items []) (.value true)
  | .value _, .openObject => openFrame state.stack (.fields []) (.name true)
  | .value true, .closeArray => closeArray state.stack
  | .name _, .scalar (.string name) =>
    match state.stack with
    | .fields done :: stack => some ⟨.field done name :: stack, .colon⟩
    | _ => none
  | .name true, .closeObject => closeObject state.stack
  | .colon, .colon => some ⟨state.stack, .value false⟩
  | .rest, .comma =>
    match state.stack with
    | .items _ :: _ => some ⟨state.stack, .value false⟩
    | .fields _ :: _ => some ⟨state.stack, .name false⟩
    | _ => none
  | .rest, .closeArray => closeArray state.stack
  | .rest, .closeObject => closeObject state.stack
  | _, _ => none

/-- The value of a text with every field it writes, repeated names included. -/
def parseRaw? (text : String) : Option Json := do
  let tokens ← lex? text.toList
  let state ← tokens.foldlM parseStep ⟨[], .value false⟩
  match state.phase with
  | .finished value => some value
  | _ => none

/-- The value of a text; repeated names keep their first place and their last value. -/
def parse? (text : String) : Option Json := (parseRaw? text).map dedupe

end Json

end StageThree
