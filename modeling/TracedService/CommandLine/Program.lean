import TracedService.CommandLine.Usage
import TracedService.Export.Printout
import TracedService.Settings.Loading
import TracedService.Startup.ProcessState

/-! One run of the program: the command line, the settings, logging, tracing and the server, in this
order. Whatever fails ends the run and is told on the error stream. -/

namespace TracedService.CommandLine

/-- The end of a run. Without a process nothing was logged, and `output` is all there is. -/
structure Ending where
  exit : Nat
  output : String := ""
  error : String := ""
  process : Option ProcessState := none

structure Running where
  settings : Settings
  address : SocketAddress
  process : ProcessState
  guard : Guard
  router : Server.Router

structure Call where
  arguments : List String
  files : String → FileContent
  surroundings : Surroundings
  network : Network
  ids : IdSource

def failureText (message : String) (cause : Option String) : String :=
  "Error: " ++ message ++ "\n" ++
    (cause.map fun c => "\nCaused by:\n    " ++ c ++ "\n").getD ""

def settingsCause? : SettingsFault → Option String
  | .file f => some f.message
  | .form f => some f.message
  | .rule _ => none

def settingsEnding (f : SettingsFault) : Ending :=
  { exit := 1, error := failureText f.message (settingsCause? f) }

def startupEnding (f : StartupFault) (p : ProcessState) : Ending :=
  { exit := 1, error := failureText f.message none, process := some p }

def Arguments.settings (a : Arguments) (env : Environment) (files : String → FileContent) :
    Except SettingsFault Settings := do
  let s ← Settings.load env (files a.path)
  match a.logLevel with
  | none => return s
  | some level =>
    let s := s.withLevel level
    s.validate
    return s

def bootstrapOf (s : Settings) (env : Environment) : Bootstrap where
  identity := s.identity
  settings := s.tracingOr env
  detector := .ofEnvironment env

/-- Makes the server, with the service's routes under the tracing of a guard. Without a server the
guard goes. -/
def makeServer (s : Settings) (guard : Guard) (p : ProcessState) : Except Ending Running :=
  match s.listenAddress with
  | .error message =>
    .error { exit := 1, error := failureText message none, process := some (p.drop guard) }
  | .ok address =>
    .ok {
      settings := s
      address := address
      process := p
      guard := guard
      router := ProcessState.instrument guard (Server.routes s.identity) }

def startService (s : Settings) (p : ProcessState) : Except Ending Running :=
  let (result, p) := p.install (bootstrapOf s p.surroundings.env)
  match result with
  | none => .error { exit := 1, process := some p }
  | some (.error f) => .error (startupEnding f p)
  | some (.ok guard) => makeServer s guard (p.attach guard)

/-- Everything up to the server: command line, settings, log subscriber, tracer and router. -/
def start (c : Call) : Except Ending Running := do
  match Invocation.read c.arguments with
  | .error f => throw { exit := 2, error := f.text }
  | .ok .help => throw { exit := 0, output := helpText }
  | .ok .version => throw { exit := 0, output := versionText }
  | .ok (.run a) =>
    let s ← (a.settings c.surroundings.env c.files).mapError settingsEnding
    let p : ProcessState := { surroundings := c.surroundings, network := c.network, ids := c.ids }
    let p ← (p.startLogging s.logging).mapError fun f => startupEnding f p
    startService s (p.say [.starting Server.version,
      .settingsLoaded (String.ofList (Text.Quoted.text a.path.toList))])

namespace Running

def bindMessage (address reason : String) : String :=
  "Failed to bind to address: " ++ address ++ ": " ++ reason

def listen (r : Running) : Except String String → Except Ending Running
  | .ok bound =>
    .ok { r with process := r.process.say [.serverStarting bound r.settings.identity.name] }
  | .error reason =>
    .error {
      exit := 1
      error := failureText (bindMessage r.address.text reason) none
      process := some (r.process.drop r.guard) }

def serve (r : Running) (request : Http.Request) : Http.Response × Running :=
  let (response, p) := r.process.serve r.router request
  (response, { r with process := p })

def request? (line : String) : Option Http.Request := do
  let (method, target) ← Text.cutFirst? ' ' (Text.trimmed line).toList
  let uri ← (Http.Uri.read true target).toOption
  if Http.isMethod (String.ofList method) then some ⟨String.ofList method, uri, {}, []⟩ else none

def answer (r : Running) (line : String) : String × Running :=
  match request? line with
  | none => ("400", r)
  | some request =>
    let (response, r) := r.serve request
    (toString response.status ++ " " ++ Text.Utf8.decodeLossy response.body, r)

def stop (r : Running) : Ending :=
  { exit := 0, process := some ((r.process.say [.serverStopping, .serverStopped]).drop r.guard) }

end Running

def logLines (p : ProcessState) : List String :=
  match p.logging with
  | some (_, format) => p.lines.map fun l => l.text format
  | none => []

/-- A line for each batch of printed spans. -/
def spanLines (p : ProcessState) : List String :=
  (p.deliveries.filter fun d => !d.printed.isEmpty).map fun d =>
    Printout.batch d.resource d.printed

def watched : List String :=
  TracingSettings.watched ++ Detector.watched ++ [Detector.hostVariable,
    Endpoint.traceVariable, Endpoint.generalVariable, ProcessState.filterVariable]

/-- Variables that settings may refer to: all that looks like a name in their text. -/
def mentioned (settings : List Char) : List String :=
  let blanked := settings.map fun c => if Placeholder.isNameChar c then c else ' '
  ((Text.splitOn ' ' blanked).map String.ofList).eraseDups.filter (!·.isEmpty)

end TracedService.CommandLine
