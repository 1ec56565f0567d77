import StageThree.CommandLine.Arguments
import StageThree.CommandLine.World
import StageThree.Adapter
import StageThree.Json.Printer

/-!
The program. `translate` shows the native command of a query; `run` answers a query from a store
that it fills with seed records first. The seed goes through the adapter like any other record.
-/

namespace StageThree.CommandLine

inductive Outcome where
  | usage (error : UsageError)
  | failed (failure : Failure)
  | done (output : String)

namespace Outcome

def version : String := "moorage 0.1.0"

def help : String :=
  "moorage - translate stage-three queries into native document-store requests\n\n" ++
    "Usage: moorage [OPTIONS] <COMMAND>\n\n" ++
    "Commands:\n" ++
    "  translate <QUERY> -m <MODELS> [--pretty]\n" ++
    "  run <QUERY> -m <MODELS> [-d <DATA>] [--pretty]\n" ++
    "  help [COMMAND]\n\n" ++
    "Options:\n" ++
    "  -l, --log-level <LOG_LEVEL>\n" ++
    "  -v, --verbose\n" ++
    "  -C, --config <CONFIG>\n" ++
    "  -h, --help\n" ++
    "  -V, --version"

def code : Outcome → UInt32
  | usage .help => 0
  | usage .version => 0
  | usage _ => 2
  | failed _ => 1
  | done _ => 0

def output : Outcome → String
  | usage .help => help ++ "\n"
  | usage .version => version ++ "\n"
  | done text => text ++ "\n"
  | _ => ""

end Outcome

def render (pretty : Bool) (value : Json) : String :=
  if pretty then value.pretty else value.compress

def translate (world : World) (options : TranslateOptions) (invocation : Invocation) :
    Except Failure Json := do
  let (query, world) ← world.readQuery invocation.query
  let (models, _) ← world.readModels invocation.models
  match query.plan options models with
  | .ok request => return (Native.document request.toCommand).relaxed
  | .error cause => throw (.query cause)

/-! ### Seeding -/

section Seed

variable {σ : Type} (adapter : Adapter σ)

def seedModel (model : String) (state : σ) : List Json → Except Failure σ
  | [] => .ok state
  | .object record :: rest =>
    match adapter.create state { Query.of .create model with record? := some record } with
    | (state, .ok _) => seedModel model state rest
    | (_, .error cause) => .error (.seed model cause)
  | _ :: _ => .error (.seedItemKind model)

def seedFields (state : σ) : List (String × Json) → Except Failure σ
  | [] => .ok state
  | (model, .array records) :: rest => do
    seedFields (← seedModel adapter model state records) rest
  | (model, _) :: _ => .error (.seedItemsKind model)

/-- Creates the records of all models, in the order in which they are given. -/
def seed (state : σ) : Json → Except Failure σ
  | .object fields => seedFields adapter state fields
  | _ => .error .seedKind

end Seed

def run (supply : Nat → ObjectId) (world : World) (options : TranslateOptions)
    (invocation : Invocation) : Except Failure Json := do
  let (query, world) ← world.readQuery invocation.query
  let (models, world) ← world.readModels invocation.models
  let adapter : Adapter Supplied := ⟨.store supply, models, options⟩
  let start : Supplied := ⟨.empty options.nativeKey, 0⟩
  let state ← match invocation.data? with
    | none => .ok start
    | some path => do
      let (data, _) ← world.readJson path
      seed adapter start data
  match adapter.run state query with
  | (_, .ok output) => return output.toJson
  | (_, .error cause) => throw (.query cause)

def perform (supply : Nat → ObjectId) (world : World) (invocation : Invocation) :
    Except Failure String := do
  match world.configuration invocation.config? with
  | .error cause => throw (.config cause)
  | .ok config =>
    let value ← match invocation.command with
      | .translate => translate world config.translate invocation
      | .run => run supply world config.translate invocation
    return render invocation.pretty value

def configVariable : String := "MOORAGE_CONFIG"

def outcome (supply : Nat → ObjectId) (world : World) (words : List String) : Outcome :=
  match Invocation.parse (world.setting? configVariable) words with
  | .error error => .usage error
  | .ok invocation =>
    match perform supply world invocation with
    | .ok output => .done output
    | .error failure => .failed failure

end StageThree.CommandLine
