import StageThree.Plan
import StageThree.Executor

/-!
Running queries. The adapter hands the planned request to an executor and reads the answer back as
records, as one record or as a value. A query that cannot be planned does not reach the executor.
-/

namespace StageThree

inductive QueryOutput where
  | records (records : List Record)
  | record (record : Record)
  | value (value : Json)

namespace QueryOutput

def toJson : QueryOutput → Json
  | records rs => .array (rs.map .object)
  | record r => .object r
  | value v => v

end QueryOutput

structure Adapter (σ : Type) where
  executor : Executor σ
  models : ModelRegistry
  options : TranslateOptions

namespace Adapter

variable {σ : Type} (adapter : Adapter σ)

def relayed {α : Type} : Except StoreError α → Except QueryError α
  | .ok value => .ok value
  | .error cause => .error (.store cause)

def find (state : σ) (query : Query) : Except QueryError (List Record) := do
  let schema ← query.resolve adapter.models
  let filter ← query.planFilter schema adapter.options
  let documents ← relayed (adapter.executor.find state query.model filter)
  return documents.map (Record.read schema adapter.options)

/-- The native value of a reduction; what no row answers is the reduction's identity. -/
def reduce (state : σ) (query : Query) (kind : Reduction) : Except QueryError Native := do
  let schema ← query.resolve adapter.models
  let plan ← query.planReduction schema adapter.options kind
  let rows ← relayed (adapter.executor.aggregate state query.model plan.stages)
  return kind.ofRows rows

/-- A native count as a natural number below `2 ^ 64`; what is no count is none. -/
def countOf : Native → Nat
  | .int32 n => n.toInt.toNat
  | .int64 n => n.toInt.toNat
  | .double x => x.wholeUpTo 0xFFFFFFFFFFFFFFFF
  | _ => 0

def count (state : σ) (query : Query) : Except QueryError Nat :=
  (adapter.reduce state query .count).map countOf

def reduceGeneric (state : σ) (query : Query) (kind : Reduction) : Except QueryError Json :=
  match kind with
  | .count => (adapter.count state query).map fun n =>
    .number ((Number.ofNat? n).getD (.int 0))
  | kind => (adapter.reduce state query kind).map Coercion.generic

/-- Stores the query's record, and returns it as it is stored. -/
def create (state : σ) (query : Query) : σ × Except QueryError Record :=
  match query.resolve adapter.models with
  | .error e => (state, .error e)
  | .ok schema =>
    match query.planRecord schema adapter.options with
    | .error e => (state, .error e)
    | .ok document =>
      let (state, stored) := adapter.executor.insert state query.model document
      (state, (relayed stored).map (Record.read schema adapter.options))

def run (state : σ) (query : Query) : σ × Except QueryError QueryOutput :=
  match query.method with
  | .find => (state, (adapter.find state query).map .records)
  | .create =>
    let (state, record) := adapter.create state query
    (state, record.map .record)
  | .reduce kind => (state, (adapter.reduceGeneric state query kind).map .value)

end Adapter

end StageThree
