import StageThree.CommandLine.LogLevel

/-!
The arguments of the command line. Options stand in front of the command or behind it; those that
both places share may be given once in each, and the place behind the command wins. A value may be
attached to its option; one that stands apart is checked only when the next argument shows that it
is complete. Everything behind two dashes is positional.
-/

namespace StageThree.CommandLine

inductive Command where
  | translate
  | run
  deriving DecidableEq

def Command.name : Command → String
  | translate => "translate"
  | run => "run"

def Command.ofName? (name : String) : Option Command :=
  if name = "translate" then some .translate
  else if name = "run" then some .run
  else none

inductive UsageError where
  | help
  | version
  | nothing
  | missingCommand
  | unknownCommand
  | unknownArgument
  | repeated
  | valueForSwitch
  | invalidValue
  | missingArgument
  deriving DecidableEq

inductive Argument where
  | logLevel
  | verbose
  | config
  | query
  | models
  | data
  | pretty
  | help
  | version
  deriving DecidableEq

namespace Argument

def takesValue : Argument → Bool
  | logLevel => true
  | config => true
  | query => true
  | models => true
  | data => true
  | _ => false

/-- Whether an argument may stand behind a command, or in front of all. -/
def isKnown (command? : Option Command) : Argument → Bool
  | version => command?.isNone
  | query => command?.isSome
  | models => command?.isSome
  | pretty => command?.isSome
  | data => command? = some .run
  | _ => true

def ofLetter? (c : Char) : Option Argument :=
  match c with
  | 'l' => some logLevel
  | 'v' => some verbose
  | 'C' => some config
  | 'm' => some models
  | 'd' => some data
  | 'h' => some help
  | 'V' => some version
  | _ => none

def ofName? (name : String) : Option Argument :=
  if name = "log-level" then some logLevel
  else if name = "verbose" then some verbose
  else if name = "config" then some config
  else if name = "models" then some models
  else if name = "data" then some data
  else if name = "pretty" then some pretty
  else if name = "help" then some help
  else if name = "version" then some version
  else none

def accepts (argument : Argument) (value : String) : Bool :=
  match argument with
  | logLevel => (LogLevel.ofName? value).isSome
  | _ => value ≠ ""

end Argument

structure Given where
  values : List (Argument × String)
  /-- An argument whose value may still come, or has come and is not checked. -/
  pending? : Option (Argument × Option String)
  positional : Bool

namespace Given

def nothing : Given := ⟨[], none, false⟩

def value? (given : Given) (argument : Argument) : Option String :=
  (given.values.find? fun entry => entry.1 = argument).map (·.2)

def has (given : Given) (argument : Argument) : Bool := (given.value? argument).isSome

def awaitsValue (given : Given) : Bool :=
  match given.pending? with
  | some (_, none) => true
  | _ => false

def put (given : Given) (argument : Argument) (value? : Option String) :
    Except UsageError Given :=
  if argument = .help then .error .help
  else if argument = .version then .error .version
  else if argument.takesValue && value?.isNone then .error .invalidValue
  else if given.has argument then .error .repeated
  else if argument.takesValue && !value?.all argument.accepts then .error .invalidValue
  else .ok { given with values := (argument, value?.getD "") :: given.values, pending? := none }

def settle (given : Given) : Except UsageError Given :=
  match given.pending? with
  | none => .ok given
  | some (argument, value?) => { given with pending? := none }.put argument value?

def take (given : Given) (argument : Argument) (value? : Option String) :
    Except UsageError Given := do
  (← given.settle).put argument value?

/-- Takes an argument whose value stands apart, if it has come already. -/
def await (given : Given) (argument : Argument) (value? : Option String) :
    Except UsageError Given := do
  return { ← given.settle with pending? := some (argument, value?) }

def takeName (command? : Option Command) (given : Given) (name : String)
    (value? : Option String) : Except UsageError Given :=
  match (Argument.ofName? name).filter (Argument.isKnown command?) with
  | none => .error .unknownArgument
  | some argument =>
    if argument.takesValue then
      if value?.isSome then given.take argument value? else given.await argument none
    else if value?.isSome then .error .valueForSwitch
    else given.take argument none

/-- Arguments by their letters. What follows the letter of an option is its value, in front of
which an equals sign may stand. -/
def takeLetters (command? : Option Command) (given : Given) :
    List Char → Except UsageError Given
  | [] => .ok given
  | c :: rest =>
    match (Argument.ofLetter? c).filter (Argument.isKnown command?) with
    | none => .error .unknownArgument
    | some argument =>
      if argument.takesValue then
        match rest with
        | [] => given.await argument none
        | '=' :: value => given.take argument (some (String.ofList value))
        | value => given.take argument (some (String.ofList value))
      else do takeLetters command? (← given.take argument none) rest

def takePositional (command? : Option Command) (trailing : Bool) (given : Given)
    (text : String) : Except UsageError Given :=
  match command? with
  | none =>
    if trailing && (text = "help" || (Command.ofName? text).isSome) then .error .unknownArgument
    else .error .unknownCommand
  | some _ =>
    if given.positional then .error .unknownArgument
    else do return { ← given.await .query (some text) with positional := true }

def takeWord (command? : Option Command) (given : Given) (word : String) :
    Except UsageError Given :=
  match word.toList with
  | '-' :: '-' :: rest =>
    let name := rest.takeWhile (· ≠ '=')
    let value? := ((rest.drop name.length).tail?).map String.ofList
    given.takeName command? (String.ofList name) value?
  | '-' :: c :: rest => given.takeLetters command? (c :: rest)
  | _ =>
    match given.pending? with
    | some (argument, none) => .ok { given with pending? := some (argument, some word) }
    | _ => given.takePositional command? false word

end Given

def helpOn : List String → UsageError
  | [] => .help
  | [name] => if name = "help" || (Command.ofName? name).isSome then .help else .unknownCommand
  | _ => .unknownCommand

/-- What was given in front of a command, the command and the words behind it. -/
abbrev Split := Given × Option (Command × List String)

/-- Reads the words in one place. In front of all commands, a command ends the place. -/
def readWords (command? : Option Command) (trailing : Bool) (given : Given) :
    List String → Except UsageError Split
  | [] => .ok (given, none)
  | word :: rest =>
    if trailing then do
      readWords command? true (← given.takePositional command? true word) rest
    else if command?.isNone && !given.awaitsValue && word = "help" then .error (helpOn rest)
    else
      match command?, given.awaitsValue, Command.ofName? word with
      | none, false, some command => .ok (given, some (command, rest))
      | _, _, _ =>
        if word = "--" then readWords command? true given rest
        else do readWords command? false (← given.takeWord command? word) rest

/-- Completes a place: a setting of the environment stands in for the configuration file. -/
def Given.complete (setting? : Option String) (given : Given) :
    Except UsageError (Given × Option String) := do
  let given ← given.settle
  match given.value? .config, setting? with
  | some _, _ => return (given, none)
  | none, some path => if path = "" then throw .invalidValue else return (given, some path)
  | none, none => return (given, none)

structure Invocation where
  command : Command
  query : String
  models : String
  data? : Option String
  pretty : Bool
  config? : Option String
  logLevel? : Option LogLevel
  verbose : Bool

namespace Invocation

def behind (setting? : Option String) (command : Command) (words : List String) :
    Except UsageError Given := do
  let (given, _) ← readWords (some command) false .nothing words
  let (given, _) ← given.complete setting?
  if given.has .query && given.has .models then return given else throw .missingArgument

def parse (setting? : Option String) (words : List String) : Except UsageError Invocation := do
  let (front, command?) ← readWords none false .nothing words
  match command? with
  | none =>
    let (front, path?) ← front.complete setting?
    if front.values.isEmpty && path?.isNone then throw .nothing else throw .missingCommand
  | some (command, rest) =>
    let given ← behind setting? command rest
    let (front, path?) ← front.complete setting?
    let shared (argument : Argument) : Option String :=
      (given.value? argument).orElse fun _ => front.value? argument
    return {
      command := command
      query := (given.value? .query).getD ""
      models := (given.value? .models).getD ""
      data? := given.value? .data
      pretty := given.has .pretty
      config? := (shared .config).orElse fun _ => path?
      logLevel? := (shared .logLevel).bind LogLevel.ofName?
      verbose := (shared .verbose).isSome }

/-- The level of the log: a level given as an argument, then the switch for more of it, then the
configuration. -/
def level (invocation : Invocation) (configured? : Option String) : LogLevel :=
  match invocation.logLevel? with
  | some level => level
  | none =>
    if invocation.verbose then .debug
    else (configured?.bind LogLevel.ofSetting?).getD .warn

end Invocation

end StageThree.CommandLine
