import TracedService.Settings.Basic
import TracedService.Settings.Fault
import TracedService.Yaml.Document
import TracedService.Yaml.Value

/-! Settings from a YAML document. A section is a mapping: unknown keys are passed over, a key may
not come twice, and what has no default has to be there. An empty section has no keys. -/

namespace TracedService.Settings

open Yaml (Item Document Scalar)

abbrev Reader := StateT (List Item) (Except FormFault)

namespace Reader

def wrongType (path expected : String) : Item → FormFault
  | .scalar s =>
    match s.value with
    | .ok v => .wrongType path v.found expected
    | .error wanted => .wrongValue path (Yaml.Value.found (.text s.text)) wanted
  | .sequenceStart => .wrongType path "sequence" expected
  | .mappingStart => .wrongType path "map" expected
  | _ => .yaml .endOfStream

/-- The next item; where there is none, the document's fault is told. -/
def next (d : Document) : Reader Item := do
  match ← get with
  | [] => throw (.yaml d.stopped)
  | item :: rest => set rest; return item

/-- Reads a node in place, or where an alias leads and then goes on behind the alias. -/
def resolved {α : Type} (d : Document) (read : Item → Reader α) : Reader α := do
  match ← next d with
  | .alias n =>
    let rest ← get
    set (d.target n)
    let a ← read (← next d)
    set rest
    return a
  | item => read item

def text (d : Document) (expected path : String) : Reader String :=
  resolved d fun item =>
    match item with
    | .scalar s => return String.ofList s.text
    | _ => throw (wrongType path expected item)

def count (d : Document) (path : String) : Reader Nat :=
  resolved d fun item =>
    match item with
    | .scalar s =>
      match s.count? with
      | some n => return n
      | none => throw (wrongType path "u64" item)
    | _ => throw (wrongType path "u64" item)

inductive Field (α : Type) where
  | unknown
  | known (present : Bool) (read : String → Reader α)

/-- The place of a value under a key; a key that is an alias has no name to go by. -/
def child (path : String) (key : Option String) : String :=
  let name := key.getD "?"
  if path.isEmpty then name else path ++ "." ++ name

def skipNode (d : Document) : Reader Unit := do
  match Document.afterNode? 0 (← get) with
  | some rest => set rest
  | none => throw (.yaml d.stopped)

def plainName : List Item → Option String
  | .scalar s :: _ => some (String.ofList s.text)
  | _ => none

def entries {α : Type} (d : Document) (path : String) (field : α → String → Field α) :
    Nat → α → Reader α
  | 0, _ => throw (.yaml d.stopped)
  | fuel + 1, a => do
    match ← get with
    | .mappingEnd :: rest => set rest; return a
    | items =>
      let key ← text d "field identifier" path
      match field a key with
      | .unknown => skipNode d; entries d path field fuel a
      | .known present read =>
        if present then throw (.duplicateField path key)
        else entries d path field fuel (← read (child path (plainName items)))

def mapping {α : Type} (d : Document) (kind : String) (start : α)
    (field : α → String → Field α) (path : String) : Reader α :=
  resolved d fun item =>
    match item with
    | .mappingStart => do entries d path field ((← get).length + 1) start
    | .scalar s =>
      if s.text.isEmpty && s.style = .plain then return start
      else throw (wrongType path ("struct " ++ kind) item)
    | _ => throw (wrongType path ("struct " ++ kind) item)

/-- A field that is read into a place, which shows whether it has been read before. -/
def into {α β : Type} (place : Option β) (put : β → α) (read : String → Reader β) : Field α :=
  .known place.isSome fun path => return put (← read path)

def need {α : Type} (path name : String) : Option α → Reader α
  | some a => return a
  | none => throw (.missingField path name)

def string (d : Document) (path : String) : Reader String :=
  text d "a string" path

def server (d : Document) (path : String) : Reader String := do
  let address ← mapping d "ServerConfig" none
    (fun a key => if key = "address" then into a some (string d) else .unknown) path
  need path "address" address

structure ServiceFields where
  name : Option String := none
  environment : Option String := none
  module : Option String := none

def service (d : Document) (path : String) : Reader Identity := do
  let f ← mapping d "ServiceConfig" ({} : ServiceFields)
    (fun f key =>
      match key with
      | "name" => into f.name (fun s => { f with name := some s }) (string d)
      | "environment" =>
        into f.environment (fun s => { f with environment := some s }) (string d)
      | "module" => into f.module (fun s => { f with module := some s }) (string d)
      | _ => .unknown) path
  return ⟨← need path "name" f.name, f.environment.getD "", f.module.getD ""⟩

structure LoggingFields where
  level : Option String := none
  format : Option String := none

def logging (d : Document) (path : String) : Reader LoggingSettings := do
  let f ← mapping d "LoggingConfig" ({} : LoggingFields)
    (fun f key =>
      match key with
      | "level" => into f.level (fun s => { f with level := some s }) (string d)
      | "format" => into f.format (fun s => { f with format := some s }) (string d)
      | _ => .unknown) path
  let unset : LoggingSettings := {}
  return ⟨f.level.getD unset.level, f.format.getD unset.format⟩

structure TracingFields where
  tool : Option String := none
  otlpEndpoint : Option String := none
  googleCloudProject : Option String := none
  jaegerEndpoint : Option String := none
  samplingRate : Option String := none
  collectorProtocol : Option String := none
  exportTimeout : Option Nat := none
  startupTimeout : Option Nat := none

def TracingFields.settings (f : TracingFields) : TracingSettings :=
  let unset : TracingSettings := {}
  { tool := f.tool.getD unset.tool
    otlpEndpoint := f.otlpEndpoint.getD unset.otlpEndpoint
    googleCloudProject := f.googleCloudProject.getD unset.googleCloudProject
    jaegerEndpoint := f.jaegerEndpoint.getD unset.jaegerEndpoint
    samplingRate := f.samplingRate.getD unset.samplingRate
    collectorProtocol := f.collectorProtocol.getD unset.collectorProtocol
    exportTimeout := f.exportTimeout.getD unset.exportTimeout
    startupTimeout := f.startupTimeout.getD unset.startupTimeout }

def tracing (d : Document) (path : String) : Reader TracingSettings := do
  let f ← mapping d "TracingConfig" ({} : TracingFields)
    (fun f key =>
      match key with
      | "tool" => into f.tool (fun s => { f with tool := some s }) (string d)
      | "otlp_endpoint" =>
        into f.otlpEndpoint (fun s => { f with otlpEndpoint := some s }) (string d)
      | "google_cloud_project" =>
        into f.googleCloudProject (fun s => { f with googleCloudProject := some s }) (string d)
      | "jaeger_endpoint" =>
        into f.jaegerEndpoint (fun s => { f with jaegerEndpoint := some s }) (string d)
      | "sampling_rate" =>
        into f.samplingRate (fun s => { f with samplingRate := some s }) (string d)
      | "collector_protocol" =>
        into f.collectorProtocol (fun s => { f with collectorProtocol := some s }) (string d)
      | "export_timeout_seconds" =>
        into f.exportTimeout (fun n => { f with exportTimeout := some n }) (count d)
      | "startup_timeout_seconds" =>
        into f.startupTimeout (fun n => { f with startupTimeout := some n }) (count d)
      | _ => .unknown) path
  return f.settings

/-- A section that may be absent. A wrong word for nothing is a fault of the mapping around it. -/
def optional {α : Type} (d : Document) (around : String) (read : Reader α) :
    Reader (Option α) :=
  resolved d fun item => do
    let absent ← match item with
      | .scalar s =>
        match s.isAbsent with
        | .ok absent => pure absent
        | .error wanted =>
          throw (.wrongValue around (Yaml.Value.found (.text s.text)) wanted)
      | _ => pure false
    if absent then return none
    else
      modify (item :: ·)
      return some (← read)

structure Fields where
  server : Option String := none
  service : Option Identity := none
  logging : Option LoggingSettings := none
  tracing : Option (Option TracingSettings) := none

def whole (d : Document) : Reader Settings := do
  let f ← mapping d "Config" ({} : Fields)
    (fun f key =>
      match key with
      | "server" => into f.server (fun s => { f with server := some s }) (server d)
      | "service" => into f.service (fun s => { f with service := some s }) (service d)
      | "logging" => into f.logging (fun s => { f with logging := some s }) (logging d)
      | "tracing" =>
        into f.tracing (fun s => { f with tracing := some s }) fun path =>
          optional d "" (tracing d path)
      | _ => .unknown) ""
  return ⟨← need "" "server" f.server, ← need "" "service" f.service, f.logging.getD {},
    f.tracing.getD none⟩

/-- The settings of a text that is one YAML document. Where a section is wrong before the text
stops being YAML, the section is told. -/
def read (content : List Char) : Except FormFault Settings :=
  let d := Document.ofText content
  if d.items.isEmpty && d.fault.isNone then .error (.missingField "" "server")
  else do
    let (s, _) ← (whole d).run d.items
    match d.fault, d.alone with
    | some f, _ => throw (.yaml f)
    | none, false => throw (.yaml .severalDocuments)
    | none, true => return s

end Reader

end TracedService.Settings
