import TracedService.FileContent
import TracedService.Log.Event
import TracedService.Yaml.Fault

/-! Why settings cannot be used: the file cannot be read, its text has not the form of settings, or
a value is not allowed. -/

namespace TracedService

/-- Faults of form. `path` names the place of a value by the keys that lead to it. -/
inductive FormFault where
  | yaml (f : Yaml.Fault)
  | missingField (path name : String)
  | duplicateField (path name : String)
  | wrongType (path found expected : String)
  | wrongValue (path found expected : String)
  deriving DecidableEq, Repr

inductive RuleFault where
  | badAddress (address : String)
  | blankName
  | badLevel (level : String)
  | badFormat (format : String)
  deriving DecidableEq, Repr

inductive SettingsFault where
  | file (f : FileFault)
  | form (f : FormFault)
  | rule (f : RuleFault)
  deriving DecidableEq, Repr

namespace FormFault

def located (path text : String) : String :=
  if path.isEmpty then text else path ++ ": " ++ text

def message : FormFault → String
  | yaml f => f.message
  | missingField path name => located path ("missing field \x60" ++ name ++ "\x60")
  | duplicateField path name => located path ("duplicate field \x60" ++ name ++ "\x60")
  | wrongType path found expected =>
    located path ("invalid type: " ++ found ++ ", expected " ++ expected)
  | wrongValue path found expected =>
    located path ("invalid value: " ++ found ++ ", expected " ++ expected)

end FormFault

namespace RuleFault

def levels : List String :=
  Log.Level.all.map Log.Level.name

def formats : List String :=
  ["json", "pretty"]

def message : RuleFault → String
  | badAddress address => "Invalid server address '" ++ address ++ "'"
  | blankName => "Service name cannot be empty"
  | badLevel level =>
    "Invalid log level '" ++ level ++ "': must be one of " ++ ", ".intercalate levels
  | badFormat format => "Invalid log format '" ++ format ++ "': must be 'json' or 'pretty'"

end RuleFault

namespace SettingsFault

def message : SettingsFault → String
  | file f => "Failed to read config file: " ++ f.message
  | form f => "Failed to parse config: " ++ f.message
  | rule f => "Invalid configuration: " ++ f.message

end SettingsFault

end TracedService
