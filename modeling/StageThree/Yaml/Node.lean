import StageThree.Fields
import StageThree.Reader
import StageThree.Yaml.Token

/-!
The nodes of a YAML document, and how settings are read out of them. Nodes are put together from
tokens with a stack of the collections that are still open; a node that is left out is an empty
scalar. An alias stands for the node that carries its anchor's number. A stream holds at most one
document; one that holds none reads as an empty scalar.
-/

namespace StageThree.Yaml

inductive Node where
  | scalar (text : String) (style : Style) (tag? : Option String)
  | sequence (items : List Node)
  | mapping (entries : List (Node × Node))
  | reference (number : Nat)
  | anchored (number : Nat) (node : Node)

def Node.empty : Node := .scalar "" .plain none

/-! ### Nodes out of tokens -/

inductive SequenceKind where
  | block
  /-- In a block mapping and not indented against it; nothing marks its end. -/
  | indentless
  | flow
  deriving DecidableEq

/-- What waits for a node. Complete parts are reversed. -/
inductive Frame where
  | anchor (number : Nat)
  | sequence (kind : SequenceKind) (done : List Node)
  | mapping (flow : Bool) (done : List (Node × Node))
  | keyed (flow : Bool) (done : List (Node × Node)) (key : Node)
  /-- A flow mapping whose next node is a key without a value. -/
  | loneKey (done : List (Node × Node))
  /-- A mapping of one entry in a flow sequence. -/
  | pair
  | keyedPair (key : Node)

structure Properties where
  anchor? : Option Nat
  tag? : Option String

inductive Phase where
  | prologue (directives version : Bool)
  | node
  | described (properties : Properties)
  | entry
  /-- A node inside the innermost collection is complete. -/
  | between
  | complete (root : Node)
  | finished (root : Node)

structure NodeState where
  stack : List Frame
  phase : Phase
  /-- What tag handles mean. -/
  handles : Fields String
  anchors : Fields Nat

namespace NodeState

def start : NodeState := ⟨[], .prologue false false, [], []⟩

def next (state : NodeState) (stack : List Frame) (phase : Phase) : NodeState :=
  { state with stack := stack, phase := phase }

/-- Hands a complete node to what waits for it. -/
def hand (state : NodeState) (node : Node) : List Frame → NodeState
  | [] => state.next [] (.complete node)
  | .anchor number :: stack => state.hand (.anchored number node) stack
  | .sequence kind done :: stack => state.next (.sequence kind (node :: done) :: stack) .between
  | .mapping flow done :: stack => state.next (.keyed flow done node :: stack) .between
  | .keyed flow done key :: stack =>
    state.next (.mapping flow ((key, node) :: done) :: stack) .between
  | .loneKey done :: stack =>
    state.next (.mapping true ((node, .empty) :: done) :: stack) .between
  | .pair :: stack => state.next (.keyedPair node :: stack) .between
  | .keyedPair key :: stack => state.hand (.mapping [(key, node)]) stack

def complete (state : NodeState) (node : Node) : NodeState := state.hand node state.stack

def close? (state : NodeState) : Option NodeState :=
  match state.stack with
  | .sequence _ done :: stack => some (state.hand (.sequence done.reverse) stack)
  | .mapping _ done :: stack => some (state.hand (.mapping done.reverse) stack)
  | _ => none

/-! ### Nodes that are left out -/

def inBlock (state : NodeState) : Bool :=
  match state.stack with
  | [] => true
  | .sequence kind _ :: _ => kind ≠ .flow
  | .mapping flow _ :: _ => !flow
  | .keyed flow _ _ :: _ => !flow
  | _ => false

def inBlockMapping (state : NodeState) : Bool :=
  match state.stack with
  | .mapping flow _ :: _ => !flow
  | .keyed flow _ _ :: _ => !flow
  | _ => false

/-- Whether a node without properties is left out in front of a token. -/
def leavesOut (state : NodeState) (token : Token) : Bool :=
  match state.stack with
  | [] =>
    match token with
    | .version _ _ => true
    | .handle _ _ => true
    | token => [Token.documentStart, .documentEnd, .streamEnd].contains token
  | .sequence .block _ :: _ => [Token.blockEntry, .blockEnd].contains token
  | .sequence .indentless _ :: _ => [Token.blockEntry, .key, .value, .blockEnd].contains token
  | .mapping false _ :: _ => [Token.key, .value, .blockEnd].contains token
  | .keyed false _ _ :: _ => [Token.key, .value, .blockEnd].contains token
  | .mapping true _ :: _ => [Token.value, .flowEntry, .flowMappingEnd].contains token
  | .keyed true _ _ :: _ => [Token.flowEntry, .flowMappingEnd].contains token
  | .keyedPair _ :: _ => [Token.flowEntry, .flowSequenceEnd].contains token
  | _ => false

def begins (state : NodeState) (token : Token) : Bool :=
  match token with
  | .scalar _ _ => true
  | .flowSequence => true
  | .flowMapping => true
  | .blockSequence => state.inBlock
  | .blockMapping => state.inBlock
  | .blockEntry => state.inBlockMapping
  | _ => false

def settleNode (state : NodeState) (token : Token) : NodeState :=
  match state.phase with
  | .node => if state.leavesOut token then state.complete .empty else state
  | .described properties =>
    let goesOn : Bool := match token with
      | .anchor _ => properties.anchor?.isNone
      | .tag _ _ => properties.tag?.isNone
      | token => state.begins token
    if goesOn then state
    else
      let node := Node.scalar "" .plain properties.tag?
      state.complete (match properties.anchor? with
        | some number => .anchored number node
        | none => node)
  | _ => state

def settleSequence (state : NodeState) (token : Token) : NodeState :=
  match state.phase, state.stack with
  | .between, .sequence .indentless done :: stack =>
    if token = .blockEntry then state else state.hand (.sequence done.reverse) stack
  | _, _ => state

/-- Completes a value that is not announced. -/
def settleValue (state : NodeState) (token : Token) : NodeState :=
  match state.phase, state.stack with
  | .between, .keyed _ _ _ :: _ => if token = .value then state else state.complete .empty
  | .between, .keyedPair _ :: _ => if token = .value then state else state.complete .empty
  | _, _ => state

def settle (state : NodeState) (token : Token) : NodeState :=
  ((state.settleNode token).settleSequence token).settleValue token

/-! ### Steps -/

def tag? (state : NodeState) (handle suffix : String) : Option String :=
  if handle = "" then some suffix
  else
    let meaning? := (Fields.get? handle state.handles).orElse fun _ =>
      if handle = "!" then some "!"
      else if handle = "!!" then some "tag:yaml.org,2002:"
      else none
    meaning?.map (· ++ suffix)

def opened (state : NodeState) (properties : Properties) (frame : Frame) (phase : Phase) :
    NodeState :=
  match properties.anchor? with
  | some number => state.next (frame :: .anchor number :: state.stack) phase
  | none => state.next (frame :: state.stack) phase

def content? (state : NodeState) (properties : Properties) (token : Token) : Option NodeState :=
  if !state.begins token then none
  else
    match token with
    | .scalar text style =>
      let node := Node.scalar text style
        (if properties.tag? = some "!" then none else properties.tag?)
      some (state.complete (match properties.anchor? with
        | some number => .anchored number node
        | none => node))
    | .flowSequence => some (state.opened properties (.sequence .flow []) .entry)
    | .flowMapping => some (state.opened properties (.mapping true []) .entry)
    | .blockSequence => some (state.opened properties (.sequence .block []) .between)
    | .blockMapping => some (state.opened properties (.mapping false []) .between)
    | .blockEntry => some (state.opened properties (.sequence .indentless []) .node)
    | _ => none

/-- Takes a token where a node is due. An anchor that is defined again keeps its place among the
anchors, and its new number is the number of names known so far. -/
def node? (state : NodeState) (properties : Properties) (token : Token) : Option NodeState :=
  match token with
  | .anchor name =>
    let number := state.anchors.length
    some { state with
      anchors := Fields.insert name number state.anchors
      phase := .described { properties with anchor? := some number } }
  | .tag handle suffix =>
    (state.tag? handle suffix).map fun tag =>
      { state with phase := .described { properties with tag? := some tag } }
  | .reference name =>
    if properties.anchor?.isSome || properties.tag?.isSome then none
    else (Fields.get? name state.anchors).map fun number => state.complete (.reference number)
  | token => state.content? properties token

def prologue? (state : NodeState) (directives version : Bool) (token : Token) :
    Option NodeState :=
  match token with
  | .version major minor =>
    if !version && major = 1 && (minor = 1 || minor = 2) then
      some { state with phase := .prologue true true }
    else none
  | .handle name meaning =>
    if Fields.contains name state.handles then none
    else some { state with
      handles := Fields.insert name meaning state.handles
      phase := .prologue true version }
  | .documentStart => some { state with phase := .node }
  | .streamEnd => if directives then none else some { state with phase := .finished .empty }
  | token => if directives then none else state.node? ⟨none, none⟩ token

def entry? (state : NodeState) (token : Token) : Option NodeState :=
  match state.stack, token with
  | .sequence _ _ :: _, .flowSequenceEnd => state.close?
  | .sequence _ _ :: _, .key => some (state.next (.pair :: state.stack) .node)
  | .mapping _ _ :: _, .flowMappingEnd => state.close?
  | .mapping _ _ :: _, .key => some { state with phase := .node }
  | .mapping _ done :: stack, token =>
    (state.next (.loneKey done :: stack) .node).node? ⟨none, none⟩ token
  | _, token => { state with phase := .node }.node? ⟨none, none⟩ token

def between? (state : NodeState) (token : Token) : Option NodeState :=
  match state.stack, token with
  | .sequence .block _ :: _, .blockEntry => some { state with phase := .node }
  | .sequence .block _ :: _, .blockEnd => state.close?
  | .sequence .indentless _ :: _, .blockEntry => some { state with phase := .node }
  | .sequence .flow _ :: _, .flowEntry => some { state with phase := .entry }
  | .sequence .flow _ :: _, .flowSequenceEnd => state.close?
  | .mapping false _ :: _, .key => some { state with phase := .node }
  | .mapping false _ :: _, .blockEnd => state.close?
  | .mapping true _ :: _, .flowEntry => some { state with phase := .entry }
  | .mapping true _ :: _, .flowMappingEnd => state.close?
  | .keyed _ _ _ :: _, .value => some { state with phase := .node }
  | .keyedPair _ :: _, .value => some { state with phase := .node }
  | _, _ => none

/-- Whether a key of a pair is left out; the token in its place is then taken with it. -/
def leavesOutPairKey (state : NodeState) (token : Token) : Bool :=
  match state.stack with
  | .pair :: _ => [Token.value, .flowEntry, .flowSequenceEnd].contains token
  | _ => false

def step? (state : NodeState) (token : Token) : Option NodeState :=
  let state := state.settle token
  match state.phase with
  | .prologue directives version => state.prologue? directives version token
  | .node =>
    if state.leavesOutPairKey token then some (state.complete .empty)
    else state.node? ⟨none, none⟩ token
  | .described properties => state.node? properties token
  | .entry => state.entry? token
  | .between => state.between? token
  | .complete root =>
    match token with
    | .documentEnd => some state
    | .streamEnd => some { state with phase := .finished root }
    | _ => none
  | .finished _ => none

end NodeState

namespace Node

def parse? (text : String) : Option Node := do
  let state ← (← tokens? text).foldlM NodeState.step? .start
  match state.phase with
  | .finished root => some root
  | _ => none

/-! ### Aliases -/

mutual

def anchors : Node → List (Nat × Node)
  | scalar _ _ _ => []
  | sequence items => itemAnchors items
  | mapping entries => entryAnchors entries
  | reference _ => []
  | anchored number node => (number, node) :: anchors node

def itemAnchors : List Node → List (Nat × Node)
  | [] => []
  | item :: rest => anchors item ++ itemAnchors rest

def entryAnchors : List (Node × Node) → List (Nat × Node)
  | [] => []
  | (key, value) :: rest => anchors key ++ anchors value ++ entryAnchors rest

end

/-- The node itself, without its anchor; for an alias, the last node that carries the number. -/
def resolve? (root : Node) : Node → Option Node
  | reference number =>
    ((anchors root).reverse.find? fun anchor => anchor.1 = number).map (·.2)
  | anchored _ node => some node
  | node => some node

/-! ### Settings -/

def text? (root node : Node) : Option String :=
  match resolve? root node with
  | some (scalar text _ _) => some text
  | _ => none

def isNull (text : String) : Bool :=
  text = "null" || text = "Null" || text = "NULL" || text = "~"

/-- A plain scalar may say that there is no text. -/
def optionalText? (root node : Node) : Option (Option String) :=
  match resolve? root node with
  | some (scalar text .plain none) =>
    if text.isEmpty || isNull text then some none else some (some text)
  | some (scalar text .plain (some "tag:yaml.org,2002:null")) =>
    if isNull text then some none else none
  | some (scalar text _ _) => some (some text)
  | _ => none

/-- A truth value is plain, unless its tag says what it is. -/
def flag? (root node : Node) : Option Bool :=
  match resolve? root node with
  | some (scalar text style tag?) =>
    if style = .plain || (style = .literal && tag? = some "tag:yaml.org,2002:bool") then
      if text = "true" || text = "True" || text = "TRUE" then some true
      else if text = "false" || text = "False" || text = "FALSE" then some false
      else none
    else none
  | _ => none

def isUnit (text : String) (style : Style) : Bool :=
  style = .plain && (text.isEmpty || isNull text)

/-- A variant is named by a tag of its own, or else by the text of a scalar. -/
def variant? (root node : Node) : Option String :=
  match resolve? root node with
  | some (scalar text style (some tag)) =>
    match tag.toList with
    | ['!'] => if isUnit text style then some "!" else none
    | '!' :: name => if isUnit text style then some (String.ofList name) else none
    | _ => some text
  | some (scalar text _ none) => some text
  | _ => none

/-- The values of a structure, whose keys are scalars; an empty scalar leaves out all of them. -/
def slots? (root : Node) (names : List String) (node : Node) : Option (List (Option Node)) := do
  match ← resolve? root node with
  | scalar "" .plain _ => return names.map fun _ => none
  | mapping entries =>
    let fields ← entries.mapM fun (key, value) => (text? root key).map (·, value)
    if names.any fun name => 1 < (fields.filter (·.1 = name)).length then none
    else return names.map fun name => Fields.get? name fields
  | _ => none

def reader (root : Node) : Reader Node :=
  ⟨slots? root, text? root, optionalText? root, flag? root, variant? root⟩

end Node

end StageThree.Yaml
