import StageThree.Filter.Native

/-!
Reductions of an attribute to one value. A reduction runs as a pipeline of two stages: the filter
picks the documents, then a group without key folds them into a single row, whose field is named
for the reduction. Without a matching document there is no row, and the answer is the identity.
-/

namespace StageThree

inductive Reduction where
  | sum
  | avg
  | min
  | max
  | count
  deriving DecidableEq, Inhabited

namespace Reduction

def all : List Reduction := [sum, avg, min, max, count]

/-- The name of a reduction, and of its field in the resulting row. -/
def name : Reduction → String
  | sum => "sum"
  | avg => "avg"
  | min => "min"
  | max => "max"
  | count => "count"

def parse (name : String) : Except TranslateError Reduction :=
  match all.find? fun kind => kind.name = name with
  | some kind => .ok kind
  | none => .error (.unsupportedReduction name)

def accumulator : Reduction → String
  | sum | count => "$sum"
  | avg => "$avg"
  | min => "$min"
  | max => "$max"

/-- What the accumulator is fed with: a one per document to count, else the field's value. -/
def operand (field : String) : Reduction → Native
  | count => .int32 1
  | _ => .string ("$" ++ field)

/-- The answer when no document matches. -/
def identity : Reduction → Native
  | sum | count => .int32 0
  | avg | min | max => .null

def ofRows? (kind : Reduction) (rows : List Document) : Option Native :=
  rows.head?.map fun row => (Fields.get? kind.name row).getD .null

def ofRows (kind : Reduction) (rows : List Document) : Native :=
  (kind.ofRows? rows).getD kind.identity

end Reduction

structure ReductionPlan where
  kind : Reduction
  field : String
  filter : Document
  deriving Inhabited

namespace ReductionPlan

def groupStage (plan : ReductionPlan) : Document :=
  [("_id", .null), (plan.kind.name,
    .document [(plan.kind.accumulator, plan.kind.operand plan.field)])]

def stages (plan : ReductionPlan) : List Document :=
  [[("$match", .document plan.filter)], [("$group", .document plan.groupStage)]]

end ReductionPlan

end StageThree
