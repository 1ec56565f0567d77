import StageThree.Filter.Basic

/-!
Reading a filter from a `where` clause. The keys `and` and `or` hold arrays of clauses; any other
key is an attribute, whose value is compared for equality or is an object of modifiers. The
entries of an object are joined in order, and a single one stands for itself.
-/

namespace StageThree.Filter

/-- The conjunction of filters; one filter needs no conjunction. -/
def conjunction : List Filter → Filter
  | [filter] => filter
  | filters => .all filters

def modifiers (attr : String) : List (String × Json) → Except FilterError (List Filter)
  | [] => .ok []
  | (modifier, operand) :: rest =>
    match CompareOp.ofModifier? modifier with
    | none => .error (.unknownModifier modifier attr)
    | some op => do return .of op attr operand :: (← modifiers attr rest)

def constraint (attr : String) : Json → Except FilterError Filter
  | .object [] => .error (.noModifier attr)
  | .object fields => (modifiers attr fields).map conjunction
  | value => .ok (.of .eq attr value)

mutual

/-- The filters of the entries of an object that is `depth` combinators deep. -/
def entries (depth : Nat) : List (String × Json) → Except FilterError (List Filter)
  | [] => .ok []
  | (key, value) :: rest => do
    let filter ← entry depth key value
    return filter :: (← entries depth rest)

def entry (depth : Nat) (key : String) : Json → Except FilterError Filter
  | .array items =>
    if key = "and" then (branches (depth + 1) key items).map .all
    else if key = "or" then (branches (depth + 1) key items).map .any
    else constraint key (.array items)
  | value =>
    if key = "and" ∨ key = "or" then .error (.branchesKind key value.kind)
    else constraint key value

def branches (depth : Nat) (combinator : String) : List Json → Except FilterError (List Filter)
  | [] => .ok []
  | item :: rest => do
    let filter ← branch depth combinator item
    return filter :: (← branches depth combinator rest)

def branch (depth : Nat) (combinator : String) : Json → Except FilterError Filter
  | .object fields =>
    if FilterError.maxDepth < depth then .error .tooDeep
    else (entries depth fields).map conjunction
  | value => .error (.branchKind combinator value.kind)

end

/-- The filter of a clause; null stands for the clause without constraints. -/
def ofWhere : Json → Except FilterError Filter
  | .null => .ok unconstrained
  | .object fields => (entries 0 fields).map conjunction
  | value => .error (.whereKind value.kind)

end StageThree.Filter
