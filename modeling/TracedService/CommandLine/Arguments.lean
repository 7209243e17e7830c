import TracedService.Text.Ascii
import TracedService.Text.Occurs
import TracedService.Text.Similarity
import TracedService.Text.Split

/-! The command line: four options, of which two have a value. Arguments are read from left to
right, and the first fault or the first request for help ends the reading. A value in an argument of
its own is looked at when the next option comes; if that is unknown, nobody hears of a fault in the
value. -/

namespace TracedService.CommandLine

inductive CliOption where
  | config
  | logLevel
  | help
  | version
  deriving DecidableEq, Repr

namespace CliOption

def all : List CliOption :=
  [config, logLevel, help, version]

def long : CliOption → String
  | config => "config"
  | logLevel => "log-level"
  | help => "help"
  | version => "version"

def short : CliOption → Char
  | config => 'c'
  | logLevel => 'l'
  | help => 'h'
  | version => 'V'

def value? : CliOption → Option String
  | config => some "CONFIG"
  | logLevel => some "LOG_LEVEL"
  | help | version => none

def ofLong? (name : String) : Option CliOption :=
  all.find? (·.long == name)

def ofShort? (c : Char) : Option CliOption :=
  all.find? (·.short == c)

def text (o : CliOption) : String :=
  "--" ++ o.long ++ (o.value?.map fun v => " <" ++ v ++ ">").getD ""

/-- The option whose long name is most like a word, if one is like it; of two equals the later. -/
def similar? (word : String) : Option CliOption :=
  let found := all.filterMap fun o =>
    let s := Text.similarity word.toList o.long.toList
    if Text.isSimilar s then some (o, s) else none
  (found.foldl (fun (best : Option (CliOption × Nat)) c =>
    if best.any fun b => c.2 < b.2 then best else some c) none).map (·.1)

end CliOption

inductive ArgumentFault where
  | missingValue (o : CliOption)
  | twice (o : CliOption)
  | unexpected (argument : String) (meant : Option CliOption) (given : List CliOption)
  /-- A value for an option without one, and whether options with a value were read before. -/
  | unneededValue (o : CliOption) (value : String) (others : Bool)
  deriving DecidableEq, Repr

structure Arguments where
  config : Option String := none
  logLevel : Option String := none
  deriving DecidableEq, Repr

namespace Arguments

def defaultConfig : String := "config.yaml"

def path (a : Arguments) : String :=
  a.config.getD defaultConfig

end Arguments

inductive Invocation where
  | help
  | version
  | run (a : Arguments)
  deriving DecidableEq, Repr

/-- What has been read: the values so far, the options in order, and the latest option with its
value as long as the value is not looked at. -/
structure Reading where
  arguments : Arguments := {}
  given : List CliOption := []
  pending : Option (CliOption × Option String) := none
  deriving DecidableEq, Repr

namespace Reading

/-- Gives an option its value. A path has at least one character, and nothing is given twice; a
fault is told beside what is known in spite of it. -/
def assign (r : Reading) (o : CliOption) (value : String) : Reading × Option ArgumentFault :=
  if r.given.contains o then ({ r with given := r.given.erase o }, some (.twice o))
  else
    let r := { r with given := r.given ++ [o] }
    match o with
    | .config =>
      if value.isEmpty then (r, some (.missingValue o))
      else ({ r with arguments := { r.arguments with config := some value } }, none)
    | .logLevel => ({ r with arguments := { r.arguments with logLevel := some value } }, none)
    | .help | .version => (r, none)

def settle (r : Reading) : Reading × Option ArgumentFault :=
  match r.pending with
  | some (o, some value) => { r with pending := none }.assign o value
  | some (o, none) => ({ r with pending := none }, some (.missingValue o))
  | none => (r, none)

def orFault : Reading × Option ArgumentFault → Except ArgumentFault Reading
  | (r, none) => .ok r
  | (_, some f) => .error f

def settled (r : Reading) : Except ArgumentFault Reading :=
  orFault r.settle

def invoked : CliOption → Option Invocation
  | .help => some .help
  | .version => some .version
  | .config | .logLevel => none

abbrev Step := Except ArgumentFault (Invocation ⊕ Reading)

def option (r : Reading) (o : CliOption) (attached : Option String) : Step :=
  match invoked o, attached with
  | some _, some v => .error (.unneededValue o v !r.given.isEmpty)
  | some i, none => do
    let _ ← r.settled
    return .inl i
  | none, some v => do return .inr (← orFault ((← r.settled).assign o v))
  | none, none => do return .inr { ← r.settled with pending := some (o, none) }

def long (r : Reading) (s : List Char) : Step :=
  let (name, attached) := match Text.cutFirst? '=' s with
    | some (n, v) => (String.ofList n, some (String.ofList v))
    | none => (String.ofList s, none)
  match CliOption.ofLong? name with
  | some o => r.option o attached
  | none => .error (.unexpected ("--" ++ name) (CliOption.similar? name) r.settle.1.given)

/-- Letters behind one dash; what follows a letter with a value is the value. -/
def cluster (r : Reading) : List Char → Step
  | [] => .ok (.inr r)
  | c :: rest =>
    match CliOption.ofShort? c with
    | none => .error (.unexpected (String.ofList ['-', c]) none [])
    | some o =>
      if o.value?.isSome then
        match rest with
        | [] => r.option o none
        | '=' :: v => r.option o (some (String.ofList v))
        | v => r.option o (some (String.ofList v))
      else
        match r.option o none with
        | .ok (.inr r) => cluster r rest
        | done => done

def plain (r : Reading) (s : String) : Step :=
  match r.pending with
  | some (o, none) => .ok (.inr { r with pending := some (o, some s) })
  | _ => .error (.unexpected s none [])

def argument (r : Reading) (s : String) : Step :=
  match s.toList with
  | '-' :: '-' :: name => r.long name
  | '-' :: c :: rest => r.cluster (c :: rest)
  | _ => r.plain s

/-- Reads what is left. Behind two lone dashes everything is plain, and nothing plain is wanted. -/
def finish (r : Reading) : List String → Except ArgumentFault Invocation
  | [] => do return .run (← r.settled).arguments
  | "--" :: [] => do return .run (← r.settled).arguments
  | "--" :: s :: _ => .error (.unexpected s none [])
  | s :: rest =>
    match r.argument s with
    | .error f => .error f
    | .ok (.inl i) => .ok i
    | .ok (.inr r) => finish r rest

end Reading

def Invocation.read (args : List String) : Except ArgumentFault Invocation :=
  Reading.finish {} args

end TracedService.CommandLine
