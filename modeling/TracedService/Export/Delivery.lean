import TracedService.Export.Call
import TracedService.Export.Exporter
import TracedService.Net.Isolation
import TracedService.Resource
import TracedService.Trace.Span

/-! Delivering finished spans: what one export comes to, and the batches that exports consist of. -/

namespace TracedService

/-- The servers that exports talk to. -/
structure Network where
  collector : Outgoing → Exchange
  tokens : TokenServer

namespace Network

def isolated : Network where
  collector := fun out =>
    .unreachable ("error trying to connect: " ++ Isolation.reason out.address.host)
  tokens := fun _ => .error "HTTP request failed: client error (Connect)"

end Network

/-- What one export comes to: spans printed, or the request that reached a server and the spans in
it. All of them are labelled with one resource. -/
structure Delivery where
  result : Except String Unit
  resource : Resource := {}
  printed : List Span := []
  sent : Option Outgoing := none
  received : List Span := []
  stopped : Bool := false

namespace Exporter

/-- Printed spans stand together by tracer, the tracers in order of their first span. -/
def byScope (spans : List Span) : List Span :=
  (spans.map Span.scope).eraseDups.flatMap fun scope => spans.filter (·.scope == scope)

def contentType : String × Text.Utf8.Bytes :=
  ("content-type", Text.Utf8.encodeText "application/x-protobuf")

def request (address : Http.Uri) (headers : Http.Headers) : Http.Request where
  method := "POST"
  uri := address
  headers := ⟨contentType :: headers.fields⟩

def call (net : Network) (address : Http.Uri) (headers : Http.Headers) :
    Option TokenSource → Call
  | some tokens => sendAuthorized (tokens.token net.tokens) net.collector (request address headers)
  | none => sendPlain net.collector (request address headers)

/-- What is told of a failed call: only a plain one gives its cause. -/
def failureText (tokens : Option TokenSource) (f : SendFault) : String :=
  if tokens.isSome then f.summary else f.detail

/-- Exports a batch. Nothing is sent over gRPC here: such an export finds no server. -/
def deliver (net : Network) (spans : List Span) : Exporter → Delivery
  | debugOutput => { result := .ok (), printed := byScope spans }
  | grpc .. => { result := .error "the grpc server cannot be reached" }
  | http address _ headers tokens =>
    let made := call net address headers tokens
    { result := (made.result.mapError (failureText tokens)).map fun _ => ()
      sent := made.sent
      received := if made.sent.isSome then spans else []
      stopped := match made.result with
        | .ok _ => false
        | .error f => f.stops }

end Exporter

/-- Finished spans on their way to an exporter, which labels them with the resource. `waiting` are
not exported yet. A pipeline is closed when its exporter was stopped; what comes later is lost. -/
structure Pipeline where
  exporter : Exporter
  resource : Resource := {}
  waiting : List Span := []
  closed : Bool := false

namespace Pipeline

/-- The batch span processor exports a batch of this many spans at once. -/
def batchSize : Nat := 512

def closedReason : String :=
  "cannot send message to batch processor as the channel is closed"

def exportAll (net : Network) (p : Pipeline) : Delivery × Pipeline :=
  let made := { p.exporter.deliver net p.waiting with resource := p.resource }
  (made, { p with waiting := [], closed := made.stopped })

/-- Takes one span; what comes of a full batch is told to nobody. -/
def push (net : Network) (p : Pipeline) (s : Span) : Pipeline × List Delivery :=
  if p.closed then (p, [])
  else
    let p := { p with waiting := p.waiting ++ [s] }
    if p.waiting.length = batchSize then
      let (made, p) := p.exportAll net
      (p, [made])
    else (p, [])

def pushAll (net : Network) (p : Pipeline) : List Span → Pipeline × List Delivery
  | [] => (p, [])
  | s :: rest =>
    let (p, made) := p.push net s
    let (p, later) := pushAll net p rest
    (p, made ++ later)

def flush (net : Network) (p : Pipeline) : Except String Unit × Pipeline × List Delivery :=
  if p.closed then (.error closedReason, p, [])
  else if p.waiting.isEmpty then (.ok (), p, [])
  else
    let (made, p) := p.exportAll net
    (made.result, p, [made])

end Pipeline

end TracedService
