import StageThree.Json.Basic

/-!
The generic filter: comparisons of attributes with operands, combined by conjunction and
disjunction. An empty conjunction holds always, an empty disjunction never. Which operands an
operator takes is a table (`Comparison.fits`); a filter that was not read from a `where` clause
may break it, and says so when it is translated.
-/

namespace StageThree

inductive CompareOp where
  | eq
  | ne
  | lt
  | lte
  | gt
  | gte
  /-- A pattern with the wildcards `%` and `_`. -/
  | like
  | isIn
  | notIn
  | isPresent
  deriving DecidableEq, Inhabited

namespace CompareOp

def all : List CompareOp := [eq, ne, lt, lte, gt, gte, like, isIn, notIn, isPresent]

def name : CompareOp → String
  | eq => "eq"
  | ne => "ne"
  | lt => "lt"
  | lte => "lte"
  | gt => "gt"
  | gte => "gte"
  | like => "like"
  | isIn => "in"
  | notIn => "nin"
  | isPresent => "exists"

def ofName? (name : String) : Option CompareOp := all.find? fun op => op.name = name

def modifier : CompareOp → String
  | eq => "="
  | ne => "!="
  | lt => "<"
  | lte => "<="
  | gt => ">"
  | gte => ">="
  | like => "like"
  | isIn => "in"
  | notIn => "nin"
  | isPresent => "exists"

/-- The operator of a modifier key. Equality has none: it is written as the bare value. -/
def ofModifier? (modifier : String) : Option CompareOp :=
  all.find? fun op => op ≠ eq && op.modifier = modifier

def native : CompareOp → String
  | eq => "$eq"
  | ne => "$ne"
  | lt => "$lt"
  | lte => "$lte"
  | gt => "$gt"
  | gte => "$gte"
  | like => "$regex"
  | isIn => "$in"
  | notIn => "$nin"
  | isPresent => "$exists"

def takesSet : CompareOp → Bool
  | isIn | notIn => true
  | _ => false

def isOrdering : CompareOp → Bool
  | lt | lte | gt | gte => true
  | _ => false

end CompareOp

inductive Operand where
  | null
  | scalar (value : Json)
  | set (values : List Json)
  deriving Inhabited

namespace Operand

/-- Arrays are sets, everything else but null is a scalar. -/
def ofJson : Json → Operand
  | .null => .null
  | .array items => .set items
  | value => .scalar value

def kind : Operand → String
  | .null => "null"
  | .scalar _ => "a scalar"
  | .set _ => "a set"

end Operand

structure Comparison where
  attr : String
  op : CompareOp
  operand : Operand
  deriving Inhabited

namespace Comparison

def fits (c : Comparison) : Bool :=
  match c.op, c.operand with
  | .eq, .null | .eq, .scalar _ | .ne, .null | .ne, .scalar _ => true
  | .lt, .scalar _ | .lte, .scalar _ | .gt, .scalar _ | .gte, .scalar _ => true
  | .like, .scalar (.string _) => true
  | .isIn, .set _ | .notIn, .set _ => true
  | .isPresent, .scalar (.bool _) => true
  | _, _ => false

end Comparison

inductive Filter where
  | all (children : List Filter)
  | any (children : List Filter)
  | compare (comparison : Comparison)
  deriving Inhabited

namespace Filter

/-- The filter without constraints. -/
def unconstrained : Filter := .all []

/-- Compares an attribute with a value of any kind. -/
def of (op : CompareOp) (attr : String) (value : Json) : Filter :=
  .compare ⟨attr, op, .ofJson value⟩

def like (attr pattern : String) : Filter := .compare ⟨attr, .like, .scalar (.string pattern)⟩

def isIn (attr : String) (values : List Json) : Filter := .compare ⟨attr, .isIn, .set values⟩

def notIn (attr : String) (values : List Json) : Filter := .compare ⟨attr, .notIn, .set values⟩

def isPresent (attr : String) (present : Bool) : Filter :=
  .compare ⟨attr, .isPresent, .scalar (.bool present)⟩

def isUnconstrained : Filter → Bool
  | .all [] => true
  | _ => false

def isCompound : Filter → Bool
  | .compare _ => false
  | _ => true

mutual

/-- The comparisons of a filter from left to right. -/
def leaves : Filter → List Comparison
  | .all children => leavesOf children
  | .any children => leavesOf children
  | .compare c => [c]

def leavesOf : List Filter → List Comparison
  | [] => []
  | child :: rest => leaves child ++ leavesOf rest

end

end Filter

inductive FilterError where
  | whereKind (kind : String)
  | tooDeep
  | branchesKind (combinator kind : String)
  | branchKind (combinator kind : String)
  | noModifier (attr : String)
  | unknownModifier (modifier attr : String)
  | operandKind (op : CompareOp) (attr kind : String)
  deriving DecidableEq

namespace FilterError

/-- The deepest nesting of combinators in a `where` clause. -/
def maxDepth : Nat := 32

def message : FilterError → String
  | .whereKind kind => "`where` must be an object, got " ++ kind
  | .tooDeep => "`where` nesting exceeds the maximum depth of " ++ toString maxDepth
  | .branchesKind combinator kind =>
    "`" ++ combinator ++ "` expects an array of clauses, got " ++ kind
  | .branchKind combinator kind => "`" ++ combinator ++ "` branches must be objects, got " ++ kind
  | .noModifier attr => "empty modifier object on `" ++ attr ++ "`"
  | .unknownModifier modifier attr =>
    "unrecognized modifier `" ++ modifier ++ "` on `" ++ attr ++ "`"
  | .operandKind op attr kind =>
    "`" ++ op.modifier ++ "` on `" ++ attr ++ "` cannot take " ++ kind

end FilterError

namespace Comparison

def check (c : Comparison) : Except FilterError Unit :=
  if c.fits then .ok () else .error (.operandKind c.op c.attr c.operand.kind)

end Comparison

end StageThree
