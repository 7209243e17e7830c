import TracedService.Export.Delivery
import TracedService.Log.Filter
import TracedService.Log.Line
import TracedService.Server.Router
import TracedService.Startup.Guard
import TracedService.Startup.SelfTest
import TracedService.Text.Lowercase

/-! The tracing state of one process. The slot for a provider is written once and never cleared; the
provider in use and the propagator are set by the installation that writes the slot. -/

namespace TracedService

inductive BuildFate where
  | completed
  | timedOut
  | cancelled
  deriving DecidableEq, Repr

/-- The fate of a build; a caller without patience limit never gives up. -/
def Bootstrap.fate (b : Bootstrap) (s : Surroundings) (patienceMillis : Option Nat) : BuildFate :=
  let timeout := b.settings.startupTimeout * 1000
  if patienceMillis.any fun m => m < timeout && !b.isInTime s m then .cancelled
  else if b.isInTime s timeout then .completed
  else .timedOut

structure ProcessState where
  surroundings : Surroundings := {}
  network : Network := .isolated
  ids : IdSource
  /-- The provider that was activated. -/
  slot : Option Provider := none
  /-- The provider that new spans go to; without one they go nowhere. -/
  global : Option Provider := none
  propagating : Bool := false
  recorder : Recorder := {}
  pipeline : Option Pipeline := none
  /-- The export that is scheduled for the start of the pipeline is over. -/
  settled : Bool := false
  deliveries : List Delivery := []
  asked : List MetadataKey := []
  logging : Option (Log.Filter × Log.Format) := none
  /-- Log spans are recorded as spans. -/
  bridged : Bool := false
  lines : List Log.Line := []

namespace ProcessState

def filterVariable : String := "RUST_LOG"

def filter (env : Environment) (l : LoggingSettings) : Log.Filter :=
  match (env.text? filterVariable).bind Log.Filter.strict? with
  | some f => f
  | none => Log.Filter.lenient (Text.lowercase l.level)

def alreadyLogging : String :=
  "Failed to set global subscriber (may already be initialized): " ++
    "a global default trace dispatcher has already been set"

def startLogging (p : ProcessState) (l : LoggingSettings) : Except StartupFault ProcessState :=
  if p.logging.isSome then .error (.logSetup alreadyLogging)
  else .ok { p with logging := some (filter p.surroundings.env l, Log.Format.ofName l.format) }

def fieldNames (e : Log.Event) : List String :=
  "message" :: e.fields.map (·.1)

def admitsSpan (p : ProcessState) (s : Log.SpanKind) : Bool :=
  p.logging.any fun (f, _) => f.admitsSpan s

/-- Logs an event that passes the filter, if need be with the help of the span around it. -/
def log (p : ProcessState) (e : Log.Event) (inside : Option Log.SpanKind := none) : ProcessState :=
  if p.logging.any fun (f, _) =>
      f.admits e.level e.target (fieldNames e) || inside.any (f.admitsInside e.level) then
    { p with lines := p.lines ++ [⟨e, inside.map (·.name)⟩] }
  else p

def say (p : ProcessState) (ns : List Notice) : ProcessState :=
  ns.foldl (fun p n => p.log n.event) p

def tracing (p : ProcessState) (provider : Provider) : Tracing :=
  ⟨provider.policy, p.ids⟩

/-- Hands the spans that have ended to the batch span processor. -/
def collect (p : ProcessState) : ProcessState :=
  let recorder := { p.recorder with ended := [] }
  match p.pipeline with
  | none => { p with recorder := recorder }
  | some line =>
    let (line, made) := line.pushAll p.network p.recorder.ended
    { p with recorder := recorder, pipeline := some line, deliveries := p.deliveries ++ made }

def start (p : ProcessState) (request : SpanRequest) (current : Context) :
    ActiveSpan × ProcessState :=
  match p.global with
  | none => (⟨.invalid, none⟩, p)
  | some provider =>
    let (a, r) := p.recorder.start (p.tracing provider) request current
    (a, { p with recorder := r })

def finish (p : ProcessState) (a : ActiveSpan) : ProcessState :=
  collect { p with recorder := p.recorder.finish a }

def extract (p : ProcessState) (h : Http.Headers) : Context :=
  if p.propagating then Hop.extract {} h else {}

def inject (p : ProcessState) (c : Context) (h : Http.Headers) : Http.Headers :=
  if p.propagating then Hop.inject c h else h

/-- A force flush: exports all that waits and tells how it went. -/
def flush (p : ProcessState) : List (Except String Unit) × ProcessState :=
  match p.pipeline with
  | none => ([], p)
  | some line =>
    let (result, line, made) := line.flush p.network
    ([result],
      { p with pipeline := some line, settled := true, deliveries := p.deliveries ++ made })

/-- Time passes: the export that is scheduled for the start takes place. Nobody is told how it
went. -/
def settle (p : ProcessState) : ProcessState :=
  if p.settled then p else p.flush.2

/-- Activates a provider for the whole process, unless one is active already. -/
def activate (p : ProcessState) (provider : Provider) : Except StartupFault ProcessState :=
  if p.slot.isSome then .error .alreadyActive
  else
    .ok (say { p with
      slot := some provider
      global := some provider
      propagating := true
      pipeline := some { exporter := provider.exporter, resource := provider.resource } }
      [.providerInstalled])

def selfTest (p : ProcessState) (provider : Provider) : ProcessState :=
  let (outcome, r) := SelfTest.run (p.tracing provider) [{ exports := true }] p.recorder
  let p := collect { p with recorder := r }
  p.say (SelfTest.notices outcome ++
    ((SelfTest.fault? outcome).map fun f => .selfTestFailed f.message).toList)

def complete (p : ProcessState) (built : Build) : Except StartupFault Guard × ProcessState :=
  let p := { p with asked := p.asked ++ built.asked }.say built.notices
  match built.result with
  | .error f => (.error f, p)
  | .ok none => (.ok .inactive, p)
  | .ok (some provider) =>
    match p.activate provider with
    | .error f => (.error f, p)
    | .ok p => (.ok (.ofProvider provider), p.selfTest provider)

/-- Builds a provider, activates it and tests it. There is no result if the caller gives up. -/
def install (p : ProcessState) (b : Bootstrap) (patienceMillis : Option Nat := none) :
    Option (Except StartupFault Guard) × ProcessState :=
  match b.fate p.surroundings patienceMillis with
  | .cancelled => (none, p.say b.opening)
  | .timedOut =>
    let seconds := b.settings.startupTimeout
    (some (.error (.timedOut seconds)),
      p.say (b.opening ++ [.bootstrapTimedOut (StartupFault.secondsText seconds)]))
  | .completed =>
    let (result, p) := p.complete (b.build p.surroundings)
    (some result, p)

def attach (p : ProcessState) (g : Guard) : ProcessState :=
  if g.active && g.provider.isSome then { p with bridged := true } else p

def closingStep (p : ProcessState) : ClosingStep → ProcessState
  | .flush => p.flush.2
  | .shutDown => { p with global := none }

def drop (p : ProcessState) (g : Guard) : ProcessState :=
  g.dropped.foldl closingStep p

/-- Shuts down explicitly; the first step, if any, is the flush whose results count. -/
def shutdown (p : ProcessState) (g : Guard) : Except StartupFault Unit × ProcessState :=
  let (results, flushed) := if g.active then p.flush else ([], p)
  match g.shutdown results with
  | (outcome, .flush :: steps) => (outcome, steps.foldl closingStep flushed)
  | (outcome, steps) => (outcome, steps.foldl closingStep p)

def instrument (g : Guard) (router : Server.Router) : Server.Router :=
  if g.active && g.provider.isSome then router.instrument else router

/-- Serves a request in a context. Serving takes long enough for the scheduled export. -/
def serve (p : ProcessState) (router : Server.Router) (request : Http.Request)
    (current : Context := {}) : Http.Response × ProcessState :=
  let policy := (p.slot.map Provider.policy).getD .alwaysOn
  let (response, r) := router.serve ⟨policy, p.ids⟩ request current p.recorder
  (response, (collect { p with recorder := r }).settle)

def bridgeScope : String := "tracer-bootstrap-log-bridge"

/-- A log span at INFO with one event inside. A span that the filter does not admit does not
happen, which the event may survive. -/
def logSpan (p : ProcessState) (target name message : String) : ProcessState :=
  let event : Log.Event := ⟨.info, target, message, []⟩
  let span : Log.SpanKind := { target, name, level := .info }
  if p.admitsSpan span then
    match p.slot with
    | some provider =>
      if p.bridged then
        let (a, r) := p.recorder.start (p.tracing provider) ⟨bridgeScope, name, .internal, []⟩ {}
        let r := r.update a (Span.addEvent ⟨message, []⟩)
        (finish { p with recorder := r } a).log event (some span)
      else p.log event (some span)
    | none => p.log event (some span)
  else p.log event

end ProcessState

end TracedService
