import StageThree.CommandLine.Program

/-!
The command line. The files that the arguments name are read before the program runs.
-/

open StageThree CommandLine

namespace StageThree.CommandLine

def watchedVariables : List String :=
  [configVariable, "MOORAGE_COERCION_POLICY", "MOORAGE_NATIVE_KEY", "MOORAGE_LOG_LEVEL"]

def Invocation.paths (invocation : Invocation) : List String :=
  invocation.query :: invocation.models :: invocation.data?.toList ++ invocation.config?.toList

/-- Identifiers that count up from a random one. -/
def freshSupply : IO (Nat → ObjectId) := do
  let first ← IO.rand 0 0xFFFFFFFFFFFFFFFF
  return fun n => ObjectId.ofNat (first * 0x100000000 + n)

def readFile? (path : String) : IO (Option (String × String)) := do
  try return some (path, ← IO.FS.readFile path) catch _ => return none

/-- The part of the world that an invocation can see. -/
def observe (invocation? : Except UsageError Invocation) (environment : Fields String) :
    IO World := do
  let paths := match invocation? with
    | .ok invocation => invocation.paths
    | .error _ => []
  let files : Fields String := (← paths.mapM readFile?).filterMap id
  let input? ← if paths.any isInput then
    try some <$> (← IO.getStdin).readToEnd catch _ => pure none
  else pure (some "")
  return ⟨fun path => Fields.get? path files, input?, fun name => Fields.get? name environment⟩

def environment : IO (Fields String) := do
  let values ← watchedVariables.mapM fun name => do
    return (← IO.getEnv name).map fun value => (name, value)
  return values.filterMap id

end StageThree.CommandLine

def main (words : List String) : IO UInt32 := do
  let environment ← environment
  let invocation? := Invocation.parse (Fields.get? configVariable environment) words
  let world ← observe invocation? environment
  let outcome := outcome (← freshSupply) world words
  IO.print outcome.output
  match outcome with
  | .failed failure =>
    IO.eprintln ("Error: " ++ failure.message)
    match failure.cause? with
    | some cause => IO.eprintln ("\nCaused by:\n    " ++ cause)
    | none => pure ()
  | .usage .help => pure ()
  | .usage .version => pure ()
  | .usage _ => IO.eprintln Outcome.help
  | .done _ => pure ()
  return outcome.code
