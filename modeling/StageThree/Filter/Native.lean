import StageThree.Filter.Where
import StageThree.Coercion
import StageThree.Schema

/-!
Filters in the language of the store. Combinators become `$and` and `$or` with their children in
order, a comparison becomes a field with one operator. The primary key goes by its native name,
and the operands of identifiers are identifiers. The store refuses an empty `$or`, so an empty
disjunction asks for a key out of no keys.
-/

namespace StageThree

inductive TranslateError where
  | malformed (cause : FilterError)
  | unsupportedReduction (kind : String)
  | coercion (cause : CoercionError)
  deriving DecidableEq

namespace TranslateError

def message : TranslateError → String
  | .malformed cause => "Malformed filter: " ++ cause.message
  | .unsupportedReduction kind =>
    "Unsupported reduction `" ++ kind ++ "` (expected one of sum, avg, min, max, count)"
  | .coercion cause => cause.message

end TranslateError

namespace Like

def isMeta (c : Char) : Bool :=
  c ∈ ['\\', '.', '+', '*', '?', '(', ')', '|', '[', ']', '{', '}', '^', '$', '#', '&', '-', '~']

/-- A character that stands for itself in a regular expression. -/
def escape (c : Char) : List Char := if isMeta c then ['\\', c] else [c]

def piece (c : Char) : List Char :=
  if c = '%' then ['.', '*'] else if c = '_' then ['.'] else escape c

/-- The regular expression of a pattern: `%` matches any run of characters, `_` any single one,
and the whole text has to match. -/
def toRegex (pattern : String) : String :=
  String.ofList ('^' :: pattern.toList.flatMap piece ++ ['$'])

end Like

namespace Filter

variable (schema : ModelSchema) (options : TranslateOptions)

def nativeField (attr : String) : String :=
  if schema.isPrimaryKey attr then options.nativeKey else attr

def nativeOperand (attr : String) (value : Json) : Except CoercionError Native :=
  if schema.holdsIdentifier attr then Coercion.nativeIdentifier attr value
  else Coercion.native attr value

def nativeOperands (attr : String) : List Json → Except CoercionError (List Native)
  | [] => .ok []
  | value :: rest => do
    let converted ← nativeOperand schema attr value
    return converted :: (← nativeOperands attr rest)

def likeCondition (pattern : String) : Document :=
  let regex : Document := [("$regex", .string (Like.toRegex pattern))]
  if options.likeIgnoresCase then regex ++ [("$options", .string "i")] else regex

/-- The operators that a field has to satisfy for a comparison to hold. -/
def nativeCondition (c : Comparison) : Except CoercionError Document :=
  match c.op, c.operand with
  | .like, .scalar (.string pattern) => .ok (likeCondition options pattern)
  | op, .null => .ok [(op.native, .null)]
  | op, .scalar value => do return [(op.native, ← nativeOperand schema c.attr value)]
  | op, .set values => do return [(op.native, .array (← nativeOperands schema c.attr values))]

def nativeComparison (c : Comparison) : Except TranslateError Document :=
  match c.check, nativeCondition schema options c with
  | .error e, _ => .error (.malformed e)
  | .ok _, .error e => .error (.coercion e)
  | .ok _, .ok condition => .ok [(nativeField schema options c.attr, .document condition)]

/-- The clause that no document satisfies. -/
def matchNothing : Document := [(options.nativeKey, .document [("$in", .array [])])]

mutual

def toNative : Filter → Except TranslateError Document
  | .all [] => .ok []
  | .all (child :: rest) => do
    let first ← toNative child
    return [("$and", .array (.document first :: (← toNatives rest)))]
  | .any [] => .ok (matchNothing options)
  | .any (child :: rest) => do
    let first ← toNative child
    return [("$or", .array (.document first :: (← toNatives rest)))]
  | .compare c => nativeComparison schema options c

def toNatives : List Filter → Except TranslateError (List Native)
  | [] => .ok []
  | child :: rest => do
    let first ← toNative child
    return .document first :: (← toNatives rest)

end

def whereToNative (clause : Json) : Except TranslateError Document :=
  match ofWhere clause with
  | .error e => .error (.malformed e)
  | .ok filter => toNative schema options filter

end Filter

end StageThree
