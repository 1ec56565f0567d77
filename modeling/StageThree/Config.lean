import StageThree.FileName
import StageThree.Options
import StageThree.Json.Parser
import StageThree.Toml.Document
import StageThree.Yaml.Node

/-!
The configuration: settings of the translation and the level of the log. It comes from a file in
one of three formats, which the extension of the file's name tells, and variables of the
environment override it.
-/

namespace StageThree

inductive ConfigFormat where
  | toml
  | yaml
  | json
  deriving DecidableEq

namespace ConfigFormat

def ofExtension? (ending : String) : Option ConfigFormat :=
  if ending = "toml" then some .toml
  else if ending = "yaml" || ending = "yml" then some .yaml
  else if ending = "json" then some .json
  else none

/-- The format that the extension of a path tells; its case does not matter. -/
def ofPath? (path : String) : Option ConfigFormat :=
  ((FileName.ofPath? path).bind FileName.extension?).bind fun ending =>
    ofExtension? (Text.lowerAscii ending)

end ConfigFormat

inductive ConfigError where
  | unreadable (path : String)
  | unparsable (path : String)
  | blankNativeKey (path : String)
  | unsupportedFormat (path : String)
  deriving DecidableEq

/-- What an error says, as far as it does not depend on the cause beneath it. -/
def ConfigError.message : ConfigError → String
  | unreadable path => "Failed to read config file " ++ path
  | unparsable path => "Failed to parse config file " ++ path
  | blankNativeKey path =>
    "Invalid setting in config file " ++ path ++ ": `translate.native_key` must not be empty"
  | unsupportedFormat path =>
    "Unsupported config format for " ++ path ++ " (expected .toml, .yaml, .yml or .json)"

structure Config where
  translate : TranslateOptions
  level? : Option String
  deriving DecidableEq

namespace Config

def default : Config := ⟨.default, none⟩

instance : Inhabited Config := ⟨default⟩

def readLevel? {α : Type} (reader : Reader α) (value : α) : Option (Option String) := do
  match ← reader.slots? ["level"] value with
  | [level] => slot? level (some default.level?) reader.optionalText?
  | _ => none

/-- Settings that are absent have their default. -/
def read? {α : Type} (reader : Reader α) (value : α) : Option Config := do
  match ← reader.slots? ["translate", "logging"] value with
  | [translate, logging] =>
    let translate ← slot? translate (some default.translate) (TranslateOptions.read? reader)
    let level ← slot? logging (some default.level?) (readLevel? reader)
    return ⟨translate, level⟩
  | _ => none

def parse? (format : ConfigFormat) (content : String) : Option Config :=
  match format with
  | .toml => (Toml.parse? content).bind (read? Toml.reader)
  | .yaml => (Yaml.Node.parse? content).bind fun root => read? (Yaml.Node.reader root) root
  | .json => (Json.parseRaw? content).bind (read? Json.reader)

def isUsable (config : Config) : Bool := Text.trim config.translate.nativeKey ≠ ""

def ofText (format : ConfigFormat) (path content : String) : Except ConfigError Config :=
  match parse? format content with
  | none => .error (.unparsable path)
  | some config => if config.isUsable then .ok config else .error (.blankNativeKey path)

/-- Applies the variables of an environment; values that make no sense are ignored. -/
def override (lookup : String → Option String) (config : Config) : Config :=
  let coercion := match (lookup "MOORAGE_COERCION_POLICY").map CoercionPolicy.parse with
    | some (.ok policy) => policy
    | _ => config.translate.coercion
  let key := match (lookup "MOORAGE_NATIVE_KEY").map Text.trim with
    | some key => if key = "" then config.translate.nativeKey else key
    | none => config.translate.nativeKey
  let level? := match lookup "MOORAGE_LOG_LEVEL" with
    | some level => some (Text.lowerAscii (Text.trim level))
    | none => config.level?
  ⟨⟨key, coercion, config.translate.likeIgnoresCase⟩, level?⟩

def toJson (config : Config) : Json :=
  .object [("translate", config.translate.toJson),
    ("logging", .object [("level", (config.level?.map .string).getD .null)])]

end Config

end StageThree
