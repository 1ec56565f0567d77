import StageThree.Store.Error
import StageThree.Store.Order
import StageThree.Regex.Pattern

/-!
Native filters. A filter is compiled before any document is seen, so that a malformed one is
rejected even by an empty collection; the predicate that comes out is total.

A condition sees the value at a path, or its absence. The tests of equality and order look into an
array as well, at its elements; equality also takes the array as a whole. An absent value equals
null alone and is ordered with nothing.
-/

namespace StageThree

/-! ### Paths -/

namespace Path

def splitDots : List Char → List (List Char)
  | [] => [[]]
  | c :: rest =>
    if c = '.' then [] :: splitDots rest
    else
      match splitDots rest with
      | [] => [[c]]
      | part :: parts => (c :: part) :: parts

def segments (path : String) : List String := (splitDots path.toList).map String.ofList

def follow (document : Document) : List String → Option Native
  | [] => none
  | [name] => Fields.get? name document
  | name :: rest =>
    match Fields.get? name document with
    | some (.document inner) => follow inner rest
    | _ => none

def lookup (document : Document) (path : String) : Option Native :=
  follow document (segments path)

end Path

def isOperator (name : String) : Bool := name.toList.head? == some '$'

/-! ### Conditions -/

inductive Condition where
  | eq (target : Native)
  | ne (target : Native)
  | lt (target : Native)
  | lte (target : Native)
  | gt (target : Native)
  | gte (target : Native)
  | isIn (targets : List Native)
  | notIn (targets : List Native)
  | isPresent (present : Bool)
  | isMatch (regex : Regex)

namespace Condition

/-- Whether the value, or an element of it if it is an array, passes a test. -/
def anyElement (test : Native → Bool) : Option Native → Bool
  | some (.array items) => items.any test
  | some value => test value
  | none => false

def equals (target : Native) : Option Native → Bool
  | none =>
    match target with
    | .null => true
    | _ => false
  | some value =>
    value.equal target ||
      match value with
      | .array items => items.any fun item => item.equal target
      | _ => false

def ordered (target : Native) (accepts : Ordering → Bool) : Option Native → Bool :=
  anyElement fun value => (value.order? target).any accepts

def holds (value : Option Native) : Condition → Bool
  | eq target => equals target value
  | ne target => !equals target value
  | lt target => ordered target (· == .lt) value
  | lte target => ordered target (· != .gt) value
  | gt target => ordered target (· == .gt) value
  | gte target => ordered target (· != .lt) value
  | isIn targets => targets.any fun target => equals target value
  | notIn targets => !targets.any fun target => equals target value
  | isPresent present => value.isSome == present
  | isMatch regex =>
    anyElement (fun value => value.asString?.any regex.isMatch) value

/-! ### Reading conditions -/

def targets (op path : String) : Native → Except Rejection (List Native)
  | .array items => .ok items
  | _ => .error (.setKind op path)

/-- What a value says of presence: zero, null and false deny it. -/
def truth : Native → Bool
  | .bool b => b
  | .null | .undefined => false
  | value =>
    match value.toDouble? with
    | some x => !x.isZero
    | none => true

def regexFlags (path : String) (flags : Regex.Flags) : List Char → Except Rejection Regex.Flags
  | [] => .ok flags
  | letter :: rest =>
    if letter ∈ ['i', 'm', 's', 'x'] then
      regexFlags path ((flags.set? letter true).getD flags) rest
    else .error (.unknownFlag letter path)

def regex (path options : String) (value : Native) : Except Rejection Regex := do
  let (pattern, inline) ← match value with
    | .string pattern => .ok (pattern, "")
    | .regex pattern inline => .ok (pattern, inline)
    | _ => .error (.patternKind path)
  let flags ← regexFlags path .default (inline.toList ++ options.toList)
  match Regex.parse? flags pattern with
  | some regex => return regex
  | none => .error (.invalidPattern path)

/-- The condition of one operator; options belong to the regular expression beside them. -/
def ofOperator (path options : String) (withRegex : Bool) (op : String) (operand : Native) :
    Except Rejection (Option Condition) :=
  match op with
  | "$eq" => .ok (some (eq operand))
  | "$ne" => .ok (some (ne operand))
  | "$lt" => .ok (some (lt operand))
  | "$lte" => .ok (some (lte operand))
  | "$gt" => .ok (some (gt operand))
  | "$gte" => .ok (some (gte operand))
  | "$in" => do return some (isIn (← targets op path operand))
  | "$nin" => do return some (notIn (← targets op path operand))
  | "$exists" => .ok (some (isPresent (truth operand)))
  | "$regex" => do return some (isMatch (← regex path options operand))
  | "$options" => if withRegex then .ok none else .error (.optionsAlone path)
  | _ => .error (.unknownOperator op path)

def ofOperators (path options : String) (withRegex : Bool) :
    List (String × Native) → Except Rejection (List Condition)
  | [] => .ok []
  | (op, operand) :: rest => do
    let condition ← ofOperator path options withRegex op operand
    return condition.toList ++ (← ofOperators path options withRegex rest)

def optionsOf (path : String) (operators : Document) : Except Rejection String :=
  match Fields.get? "$options" operators with
  | none => .ok ""
  | some (.string options) => .ok options
  | some _ => .error (.optionsKind path)

/-- The conditions on the value at a path. A document that begins with an operator holds
operators; any other value is compared for equality. -/
def ofValue (path : String) (value : Native) : Except Rejection (List Condition) :=
  match value with
  | .document ((first, operand) :: rest) =>
    if isOperator first then do
      let operators := (first, operand) :: rest
      let options ← optionsOf path operators
      ofOperators path options (Fields.contains "$regex" operators) operators
    else .ok [eq value]
  | _ => .ok [eq value]

end Condition

/-! ### Predicates -/

inductive Predicate where
  | all (children : List Predicate)
  | any (children : List Predicate)
  | field (path : String) (conditions : List Condition)

namespace Predicate

mutual

def holds (document : Document) : Predicate → Bool
  | .all children => holdAll document children
  | .any children => holdAny document children
  | .field path conditions =>
    conditions.all fun condition => condition.holds (Path.lookup document path)

def holdAll (document : Document) : List Predicate → Bool
  | [] => true
  | child :: rest => holds document child && holdAll document rest

def holdAny (document : Document) : List Predicate → Bool
  | [] => false
  | child :: rest => holds document child || holdAny document rest

end

mutual

def clauses (depth : Nat) : List (String × Native) → Except Rejection (List Predicate)
  | [] => .ok []
  | (key, value) :: rest => do
    let first ← clause depth key value
    return first :: (← clauses depth rest)

def clause (depth : Nat) (key : String) : Native → Except Rejection Predicate
  | .array items =>
    if key = "$and" then (nonempty depth key items).map .all
    else if key = "$or" then (nonempty depth key items).map .any
    else if isOperator key then .error (.unknownCombinator key)
    else (Condition.ofValue key (.array items)).map (.field key)
  | value =>
    if key = "$and" ∨ key = "$or" then .error (.branchesKind key)
    else if isOperator key then .error (.unknownCombinator key)
    else (Condition.ofValue key value).map (.field key)

def nonempty (depth : Nat) (combinator : String) :
    List Native → Except Rejection (List Predicate)
  | [] => .error (.noBranches combinator)
  | item :: rest => do
    let first ← branch (depth + 1) combinator item
    return first :: (← branches (depth + 1) combinator rest)

def branches (depth : Nat) (combinator : String) :
    List Native → Except Rejection (List Predicate)
  | [] => .ok []
  | item :: rest => do
    let first ← branch depth combinator item
    return first :: (← branches depth combinator rest)

def branch (depth : Nat) (combinator : String) : Native → Except Rejection Predicate
  | .document fields =>
    if Rejection.maxDepth < depth then .error .filterTooDeep
    else (clauses depth fields).map .all
  | _ => .error (.branchKind combinator)

end

/-- The predicate of a native filter; the empty filter holds for every document. -/
def compile (filter : Document) : Except Rejection Predicate :=
  (clauses 0 filter).map .all

end Predicate

end StageThree
