import StageThree.Reduction
import StageThree.Json.Structure

/-!
Queries: a method, the model it is addressed to, and what the method needs besides. Only the
`where` clause of the criteria means anything.
-/

namespace StageThree

inductive Method where
  | find
  | create
  | reduce (kind : Reduction)
  deriving DecidableEq, Inhabited

namespace Method

def name : Method → String
  | find => "find"
  | create => "create"
  | reduce kind => kind.name

def all : List Method := [find, create] ++ Reduction.all.map reduce

def ofName? (name : String) : Option Method := all.find? fun method => method.name = name

def reduction? : Method → Option Reduction
  | reduce kind => some kind
  | _ => none

end Method

structure Query where
  method : Method
  /-- The identity of the model, which is also the name of the collection. -/
  model : String
  clause : Json
  attr? : Option String
  record? : Option Record
  deriving Inhabited

namespace Query

def of (method : Method) (model : String) : Query := ⟨method, model, .null, none, none⟩

def clauseOfJson? (criteria : Json) : Option Json := do
  match ← Json.slots? ["where"] criteria with
  | [clause] => return clause.getD .null
  | _ => none

/-- A field that null leaves out. -/
def optional? {α : Type} (read? : Json → Option α) : Json → Option (Option α)
  | .null => some none
  | value => (read? value).map some

def ofJson? (value : Json) : Option Query := do
  match ← Json.slots? ["method", "using", "criteria", "numericAttrName", "newRecord"] value with
  | [some method, some model, criteria, attr, record] =>
    let method ← (← Json.variantName? method) |> Method.ofName?
    let model ← model.asString?
    let clause ← slot? criteria (some .null) clauseOfJson?
    let attr ← slot? attr (some none) (optional? Json.asString?)
    let record ← slot? record (some none) (optional? Json.asObject?)
    return ⟨method, model, clause, attr, record⟩
  | _ => none

def toJson (query : Query) : Json :=
  .object ([("method", .string query.method.name), ("using", .string query.model),
      ("criteria", .object [("where", query.clause)])] ++
    (query.attr?.map fun attr => ("numericAttrName", Json.string attr)).toList ++
    (query.record?.map fun record => ("newRecord", Json.object record)).toList)

end Query

end StageThree
