import TracedService.CommandLine.Arguments
import TracedService.Server.Routes
import TracedService.Text.Terminal

/-! What the command line tells about itself. An argument that is quoted loses what a terminal would
take for a command. -/

namespace TracedService.CommandLine

def program : String := "tracer-bootstrap"

def about : String :=
  "Startup bootstrap that selects, activates and wires an OpenTelemetry trace provider"

def CliOption.purpose : CliOption → String
  | config => "Path to configuration file [default: " ++ Arguments.defaultConfig ++ "]"
  | logLevel => "Log level override (trace, debug, info, warn, error)"
  | help => "Print help"
  | version => "Print version"

def CliOption.helpLine (o : CliOption) : String :=
  let head := "  " ++ String.ofList ['-', o.short] ++ ", " ++ o.text
  let width := (CliOption.all.map fun o => o.text.length).foldl max 0 + 8
  head ++ String.ofList (List.replicate (width - head.length) ' ') ++ o.purpose ++ "\n"

def usage (given : List CliOption) : String :=
  "Usage: " ++ program ++
    (if given.isEmpty then " [OPTIONS]" else String.join (given.map fun o => " " ++ o.text))

def helpText : String :=
  about ++ "\n\n" ++ usage [] ++ "\n\nOptions:\n" ++
    String.join (CliOption.all.map CliOption.helpLine)

def versionText : String :=
  program ++ " " ++ Server.version ++ "\n"

namespace ArgumentFault

def message : ArgumentFault → String
  | missingValue o => "a value is required for '" ++ o.text ++ "' but none was supplied"
  | twice o => "the argument '" ++ o.text ++ "' cannot be used multiple times"
  | unexpected argument meant _ =>
    "unexpected argument '" ++ Text.Terminal.shown argument ++ "' found" ++
      (meant.map fun o => "\n\n  tip: a similar argument exists: '--" ++ o.long ++ "'").getD ""
  | unneededValue o value _ =>
    "unexpected value '" ++ Text.Terminal.shown value ++ "' for '" ++ o.text ++
      "' found; no more were expected"

def choice : String :=
  "<" ++ "|".intercalate ((CliOption.all.filter (·.value?.isSome)).map CliOption.text) ++ ">"

def reminder? : ArgumentFault → Option String
  | missingValue _ => none
  | twice _ => some (usage [])
  | unexpected _ meant given => some (usage (given ++ (meant.filter (!given.contains ·)).toList))
  | unneededValue o _ others => some (usage [o] ++ if others then " " ++ choice else "")

def text (f : ArgumentFault) : String :=
  "error: " ++ f.message ++ "\n\n" ++ (f.reminder?.map (· ++ "\n\n")).getD "" ++
    "For more information, try '--help'.\n"

end ArgumentFault

end TracedService.CommandLine
