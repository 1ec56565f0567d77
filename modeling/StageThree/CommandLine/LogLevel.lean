import StageThree.Text.Blank

/-!
How much is logged.
-/

namespace StageThree

inductive LogLevel where
  | off
  | error
  | warn
  | info
  | debug
  | trace
  deriving DecidableEq, Inhabited

namespace LogLevel

def all : List LogLevel := [off, error, warn, info, debug, trace]

def name : LogLevel → String
  | off => "off"
  | error => "error"
  | warn => "warn"
  | info => "info"
  | debug => "debug"
  | trace => "trace"

def ofName? (name : String) : Option LogLevel := all.find? fun level => level.name = name

/-- A level as settings write it: its case does not matter. -/
def ofSetting? (text : String) : Option LogLevel := ofName? (Text.lowerAscii text)

end LogLevel

end StageThree
