import TracedService.Startup.Fault
import TracedService.Startup.Notice
import TracedService.Trace.Recorder

/-! The self-test: one span with one event, sent through the span processors of a provider. A
processor may panic when the span starts or when it ends; one panic is caught and told. -/

namespace TracedService

/-- The payload of a panic in a span processor. -/
inductive Crash where
  | text (s : String)
  | other
  /-- No text, and dropping it panics again. -/
  | volatile
  deriving DecidableEq, Repr

def Crash.message : Crash → String
  | text s => s
  | other | volatile => "unknown panic"

/-- A span processor: whether it exports the spans that end, and where it crashes. -/
structure Processor where
  exports : Bool := false
  atStart : Option Crash := none
  atEnd : Option Crash := none
  deriving DecidableEq, Repr

namespace SelfTest

def scope : String := "tracer-bootstrap"
def spanName : String := "InitializeTracerSpan"
def eventName : String := "Tracer initialized successfully"

def request : SpanRequest := ⟨scope, spanName, .internal, []⟩

inductive Outcome where
  | passed
  | failed (payload : Crash)
  /-- The payload of the caught panic panics when it is dropped, and nobody catches that. -/
  | escaped
  /-- A panic leaves the span's destructor while another one unwinds: the process ends. -/
  | aborted
  deriving DecidableEq, Repr

def Outcome.returns : Outcome → Bool
  | passed | failed _ => true
  | escaped | aborted => false

/-- What becomes of a panic that is caught: its text is taken, then its payload is dropped. -/
def Outcome.ofCaught : Crash → Outcome
  | .volatile => escaped
  | payload => failed payload

/-- The first panic at the start of a span; the span processors are told in order. -/
def startCrash? (ps : List Processor) : Option Crash :=
  ps.findSome? (·.atStart)

/-- The exports of an ended span, and the crash that kept it from the later processors. -/
def handOver (s : Span) : List Processor → List Span × Option Crash
  | [] => ([], none)
  | p :: ps =>
    match p.atEnd with
    | some payload => ([], some payload)
    | none =>
      let (exported, crash) := handOver s ps
      (if p.exports then s :: exported else exported, crash)

def finish (ps : List Processor) (r : Recorder) (a : ActiveSpan) :
    Option Crash × Recorder :=
  match r.close a with
  | (none, r) => (none, r)
  | (some span, r) =>
    let (exported, crash) := handOver span ps
    (crash, { r with ended := r.ended ++ exported })

/-- One self-test. A span whose start fails is ended without its event. -/
def run (t : Tracing) (ps : List Processor) (r : Recorder) : Outcome × Recorder :=
  let (a, r) := r.start t request {}
  match startCrash? ps with
  | some payload =>
    match finish ps r a with
    | (none, r) => (.ofCaught payload, r)
    | (some _, r) => (.aborted, r)
  | none =>
    match finish ps (r.update a (Span.addEvent ⟨eventName, []⟩)) a with
    | (none, r) => (.passed, r)
    | (some payload, r) => (.ofCaught payload, r)

def notices : Outcome → List Notice
  | .passed => [.selfTestEmitted spanName]
  | .failed _ | .escaped | .aborted => []

def fault? : Outcome → Option StartupFault
  | .failed payload => some (.selfTest payload.message)
  | .passed | .escaped | .aborted => none

end SelfTest

end TracedService
