import StageThree.Query
import StageThree.Record
import StageThree.Store.Error

/-!
What a query asks of the store. Planning needs no store: the model's schema and the settings decide
the native request, which can also be shown as the command of a document database.
-/

namespace StageThree

inductive QueryError where
  | unknownModel (model : String)
  | missingField (method field : String)
  | translate (cause : TranslateError)
  | store (cause : StoreError)

namespace QueryError

def message : QueryError → String
  | unknownModel model => "No `" ++ model ++ "` model has been registered with this adapter"
  | missingField method field => "`" ++ method ++ "` query is missing `" ++ field ++ "`"
  | translate cause => cause.message
  | store cause => cause.message

/-- Whether the same query could succeed another time. -/
def isRetryable : QueryError → Bool
  | store (.backend _) => true
  | _ => false

end QueryError

inductive Request where
  | find (filter : Document)
  | aggregate (plan : ReductionPlan)
  | insert (document : Document)

structure NativeRequest where
  collection : String
  request : Request

namespace Request

def name : Request → String
  | find _ => "find"
  | aggregate _ => "aggregate"
  | insert _ => "insert"

def argument : Request → String × Native
  | find filter => ("filter", .document filter)
  | aggregate plan => ("pipeline", .array (plan.stages.map .document))
  | insert document => ("documents", .array [.document document])

end Request

def NativeRequest.toCommand (request : NativeRequest) : Document :=
  [(request.request.name, .string request.collection), request.request.argument]

namespace Query

variable (schema : ModelSchema) (options : TranslateOptions)

def planFilter (query : Query) : Except QueryError Document :=
  match Filter.whereToNative schema options query.clause with
  | .ok filter => .ok filter
  | .error cause => .error (.translate cause)

/-- The attribute that is reduced; counting needs none. -/
def reducedAttr (query : Query) (kind : Reduction) : Except QueryError String :=
  match query.attr?, kind with
  | some attr, _ => .ok attr
  | none, .count => .ok schema.primaryKey
  | none, kind => .error (.missingField kind.name "numericAttrName")

def planReduction (query : Query) (kind : Reduction) : Except QueryError ReductionPlan := do
  let attr ← query.reducedAttr schema kind
  let filter ← query.planFilter schema options
  return ⟨kind, Filter.nativeField schema options attr, filter⟩

def planRecord (query : Query) : Except QueryError Document :=
  match query.record? with
  | none => .error (.missingField "create" "newRecord")
  | some record =>
    match Record.write schema options record with
    | .ok document => .ok document
    | .error cause => .error (.translate (.coercion cause))

def planRequest (query : Query) : Except QueryError Request :=
  match query.method with
  | .find => (query.planFilter schema options).map .find
  | .create => (query.planRecord schema options).map .insert
  | .reduce kind => (query.planReduction schema options kind).map .aggregate

def resolve (models : ModelRegistry) (query : Query) : Except QueryError ModelSchema :=
  match models.get? query.model with
  | some schema => .ok schema
  | none => .error (.unknownModel query.model)

def plan (models : ModelRegistry) (query : Query) : Except QueryError NativeRequest := do
  let schema ← query.resolve models
  return ⟨query.model, ← query.planRequest schema options⟩

end Query

end StageThree
