import StageThree.Config
import StageThree.Plan

/-!
What the program finds around it, and why it may fail there. The path `-` means the standard
input, which can be read once; after that there is nothing left in it.
-/

namespace StageThree.CommandLine

structure World where
  file? : String → Option String
  /-- What is left of the standard input, unless it cannot be read. -/
  input? : Option String
  setting? : String → Option String

inductive Failure where
  | config (cause : ConfigError)
  | unreadable (path : String)
  | unreadableInput
  | notJson (path : String)
  | notQuery (path : String)
  | notModels (path : String)
  | seedKind
  | seedItemsKind (model : String)
  | seedItemKind (model : String)
  | seed (model : String) (cause : QueryError)
  | query (cause : QueryError)

namespace Failure

def message : Failure → String
  | config cause => cause.message
  | unreadable path => "Failed to read " ++ path
  | unreadableInput => "Failed to read stdin"
  | notJson path => path ++ " is not valid JSON"
  | notQuery path => path ++ " is not a stage-three query"
  | notModels path => path ++ " is not a model registry"
  | seedKind => "seed data must be an object mapping model identity to records"
  | seedItemsKind model => "seed data for `" ++ model ++ "` must be an array"
  | seedItemKind model => "seed records for `" ++ model ++ "` must be objects"
  | seed model _ => "Failed to seed `" ++ model ++ "`"
  | query cause => cause.message

def cause? : Failure → Option String
  | seed _ cause => some cause.message
  | _ => none

end Failure

/-- Whether a path means the standard input; parts that say nothing may follow. -/
def isInput (path : String) : Bool :=
  match path.splitOn "/" with
  | "-" :: rest => rest.all fun part => part = "" || part = "."
  | _ => false

namespace World

def read (world : World) (path : String) : Except Failure (String × World) :=
  if isInput path then
    match world.input? with
    | some text => .ok (text, { world with input? := some "" })
    | none => .error .unreadableInput
  else
    match world.file? path with
    | some text => .ok (text, world)
    | none => .error (.unreadable path)

def readJson (world : World) (path : String) : Except Failure (Json × World) := do
  let (text, world) ← world.read path
  match Json.parse? text with
  | some value => return (value, world)
  | none => throw (.notJson path)

def readQuery (world : World) (path : String) : Except Failure (Query × World) := do
  let (value, world) ← world.readJson path
  match Query.ofJson? value with
  | some query => return (query, world)
  | none => throw (.notQuery path)

def readModels (world : World) (path : String) : Except Failure (ModelRegistry × World) := do
  let (value, world) ← world.readJson path
  match ModelRegistry.ofJson? value with
  | some models => return (models, world)
  | none => throw (.notModels path)

/-- The configuration: defaults, then a file, then the environment. -/
def configuration (world : World) (path? : Option String) : Except ConfigError Config := do
  let config ← match path? with
    | none => .ok .default
    | some path =>
      match ConfigFormat.ofPath? path, world.file? path with
      | none, _ => .error (.unsupportedFormat path)
      | some _, none => .error (.unreadable path)
      | some format, some content => Config.ofText format path content
  return config.override world.setting?

end World

end StageThree.CommandLine
