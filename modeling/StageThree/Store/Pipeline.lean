import StageThree.Store.Predicate
import StageThree.WordRange

/-!
Aggregation pipelines: stages that pick documents and stages that group them. Every stage is
compiled before any runs.

A group stage puts each document into the first group whose key equals its own, and starts a new
group where there is none; groups stay in the order in which their keys appeared. Each group
becomes a row, in which accumulators fold the documents of the group in their order.
-/

namespace StageThree

/-! ### Accumulators -/

/-- What a document contributes: the value at a path, or a constant. -/
inductive Expression where
  | path (path : String)
  | constant (value : Native)

namespace Expression

/-- Text that begins with a dollar sign names a path. -/
def ofNative : Native → Expression
  | .string text =>
    if isOperator text then .path (String.ofList (text.toList.dropWhile (· = '$')))
    else .constant (.string text)
  | value => .constant value

def eval (document : Document) : Expression → Option Native
  | path p => Path.lookup document p
  | constant value => some value

end Expression

/-- A running sum. It is exact while it is made of integers and fits 64 bits; the approximate sum
runs beside it. -/
structure Total where
  sum? : Option Int
  approximate : Double
  wide : Bool
  fractional : Bool

namespace Total

def zero : Total := ⟨some 0, Double.zero, false, false⟩

def fit? (n : Int) : Option Int := if Fits64 n then some n else none

def addInt (total : Total) (n : Int) : Total :=
  { total with
    sum? := total.sum?.bind fun sum => fit? (sum + n)
    approximate := total.approximate.add (Double.ofInt n) }

/-- Adds a number; other values do not count. -/
def add (total : Total) : Native → Total
  | .int32 n => total.addInt n.toInt
  | .int64 n => { total.addInt n.toInt with wide := true }
  | .double x => { total with approximate := total.approximate.add x, fractional := true }
  | _ => total

/-- The sum in the narrowest width that the numbers and the result allow. -/
def toNative (total : Total) : Native :=
  match total.sum? with
  | some sum =>
    if total.fractional then .double total.approximate
    else if !total.wide && Fits32 sum then .int32 (Int32.ofInt sum)
    else .int64 (Int64.ofInt sum)
  | none => .double total.approximate

end Total

inductive AccumulatorOp where
  | sum
  | avg
  | min
  | max
  deriving DecidableEq

namespace AccumulatorOp

def ofName? (name : String) : Option AccumulatorOp :=
  match name with
  | "$sum" => some .sum
  | "$avg" => some .avg
  | "$min" => some .min
  | "$max" => some .max
  | _ => none

def sumOf (values : List Native) : Native := (values.foldl Total.add Total.zero).toNative

/-- The mean of the numbers as doubles; summing begins with minus zero, which adds nothing to any
number, itself included. -/
def meanOf (values : List Native) : Native :=
  match values.filterMap Native.toDouble? with
  | [] => .null
  | numbers =>
    let sum := numbers.foldl Double.add (Double.ofMagnitude true 0)
    .double (sum.div (Double.ofNat numbers.length))

def isVoid : Native → Bool
  | .null | .undefined => true
  | _ => false

/-- The value that comes out best when each value but the first has to surpass the best so far. -/
def best? (wanted : Ordering) : Option Native → List Native → Option Native
  | best, [] => best
  | none, value :: rest => best? wanted (some value) rest
  | some best, value :: rest =>
    best? wanted (some (if value.canonicalOrder best == wanted then value else best)) rest

/-- The least or the greatest value other than null, or null if there is none. -/
def extremumOf (wanted : Ordering) (values : List Native) : Native :=
  (best? wanted none (values.filter fun value => !isVoid value)).getD .null

def apply : AccumulatorOp → List Native → Native
  | sum, values => sumOf values
  | avg, values => meanOf values
  | min, values => extremumOf .lt values
  | max, values => extremumOf .gt values

end AccumulatorOp

structure Accumulator where
  output : String
  op : AccumulatorOp
  input : Expression

namespace Accumulator

def fold (accumulator : Accumulator) (members : List Document) : Native :=
  accumulator.op.apply (members.filterMap accumulator.input.eval)

def compile (output : String) : Native → Except Rejection Accumulator
  | .document [(name, operand)] =>
    match AccumulatorOp.ofName? name with
    | some op => .ok ⟨output, op, .ofNative operand⟩
    | none => .error (.unknownAccumulator name)
  | .document _ => .error (.accumulatorFields output)
  | _ => .error (.accumulatorKind output)

end Accumulator

/-! ### Groups -/

structure GroupStage where
  key : Expression
  accumulators : List Accumulator

namespace GroupStage

def keyName : String := "_id"

def columns : List (String × Native) → Except Rejection (List Accumulator)
  | [] => .ok []
  | (output, definition) :: rest =>
    if output = keyName then columns rest
    else do
      let accumulator ← Accumulator.compile output definition
      return accumulator :: (← columns rest)

def compile (spec : Document) : Except Rejection GroupStage :=
  match Fields.get? keyName spec with
  | none => .error .groupWithoutKey
  | some key => do return ⟨.ofNative key, ← columns spec⟩

/-- The key of a document; null where it has none. -/
def keyOf (stage : GroupStage) (document : Document) : Native :=
  (stage.key.eval document).getD .null

/-- Adds a document to the first group with an equal key, or to a new group at the end. -/
def place (key : Native) (document : Document) :
    List (Native × List Document) → List (Native × List Document)
  | [] => [(key, [document])]
  | (existing, members) :: rest =>
    if existing.equal key then (existing, members ++ [document]) :: rest
    else (existing, members) :: place key document rest

def groups (stage : GroupStage) (documents : List Document) : List (Native × List Document) :=
  documents.foldl (fun groups document => place (stage.keyOf document) document groups) []

def row (stage : GroupStage) (group : Native × List Document) : Document :=
  stage.accumulators.foldl
    (fun row accumulator => Fields.insert accumulator.output (accumulator.fold group.2) row)
    [(keyName, group.1)]

def run (stage : GroupStage) (documents : List Document) : List Document :=
  (stage.groups documents).map stage.row

end GroupStage

/-! ### Stages -/

inductive Stage where
  | pick (predicate : Predicate)
  | group (stage : GroupStage)

namespace Stage

def compile : Document → Except Rejection Stage
  | [("$match", .document filter)] => (Predicate.compile filter).map .pick
  | [("$group", .document spec)] => (GroupStage.compile spec).map .group
  | [(name, _)] =>
    if name = "$match" ∨ name = "$group" then .error (.stageKind name)
    else .error (.unknownStage name)
  | _ => .error .stageFields

def run : Stage → List Document → List Document
  | pick predicate, documents => documents.filter fun document => predicate.holds document
  | group stage, documents => stage.run documents

end Stage

abbrev Pipeline := List Stage

namespace Pipeline

def compile : List Document → Except Rejection Pipeline
  | [] => .ok []
  | stage :: rest => do
    let first ← Stage.compile stage
    return first :: (← compile rest)

def run (pipeline : Pipeline) (documents : List Document) : List Document :=
  pipeline.foldl (fun rows stage => stage.run rows) documents

end Pipeline

end StageThree
