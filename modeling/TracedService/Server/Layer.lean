import TracedService.Http.Status
import TracedService.Propagation.Hop
import TracedService.Server.Handler
import TracedService.Server.Place

/-! Layers around a service. For request tracing one layer opens a server span around the request
and continues the trace that the headers name, and another records the URL on the nearest such span.
Below a place a layer takes the place away from the path. -/

namespace TracedService.Server

/-- The two middlewares of request tracing, and the place of a nested router. -/
inductive Layer where
  | requestSpan
  | fullUrl
  | below (place : List Char)
  deriving DecidableEq, Repr

namespace Layer

def scope : String := "http-server"

def methodKey : String := "http.method"
def targetKey : String := "http.target"
def serverKey : String := "http.server_name"
def routeKey : String := "http.route"
def urlKey : String := "http.full_url"
def statusKey : String := "http.status_code"

def spanName (i : Arrival) : String :=
  i.route.getD ("HTTP " ++ i.request.method)

def openingAttributes (i : Arrival) : List SpanAttribute :=
  [(methodKey, .text i.request.method),
    (targetKey, .text (String.ofList i.request.uri.target)),
    (serverKey, .text scope)] ++ (i.route.map fun p => (routeKey, .text p)).toList

def spanRequest (i : Arrival) : SpanRequest :=
  ⟨scope, spanName i, .server, openingAttributes i⟩

/-- What a status adds to the span: the number, and a failure if the server is to blame. -/
def recordStatus (status : Nat) (s : Span) : Span :=
  let s := s.addAttribute (statusKey, .integer status)
  if Http.Status.isServerError status then s.setStatus (.failed (Http.Status.line status)) else s

/-- Serves the request inside a span. What the headers say is laid over the current context; the
span's context is current for the service, and it is left with the request. -/
def traceRequest (t : Tracing) (inner : Service) : Service := fun i r =>
  let parent := Hop.extract i.current i.request.headers
  let (span, r) := r.start t (spanRequest i) parent
  let context := parent.withSpan span
  let (response, r) := inner { i with current := context, left := some context } r
  (response, (r.update span (recordStatus response.status)).finish span)

/-- The span that the URL belongs to: the one left with the request, else the current one. -/
def nearest (i : Arrival) : Context :=
  i.left.getD i.current

def recordUrl (inner : Service) : Service := fun i r =>
  let url := (urlKey, AttributeValue.text (String.ofList i.request.uri.text))
  inner i (match (nearest i).active with
    | some a => if a.context.valid then r.update a (Span.addAttribute url) else r
    | none => r)

def arrivalBelow (place : List Char) (i : Arrival) : Arrival :=
  { i with request := { i.request with uri := Place.uri place i.request.uri } }

def serveBelow (place : List Char) (inner : Service) : Service := fun i r =>
  inner (arrivalBelow place i) r

def apply (t : Tracing) : Layer → Service → Service
  | requestSpan, inner => traceRequest t inner
  | fullUrl, inner => recordUrl inner
  | below place, inner => serveBelow place inner

/-- The middlewares of request tracing; the one with the span is outermost. -/
def full : List Layer :=
  [fullUrl, requestSpan]

end Layer

structure Endpoint where
  handler : Handler
  layers : List Layer := []

namespace Endpoint

def addLayer (l : Layer) (e : Endpoint) : Endpoint :=
  { e with layers := e.layers ++ [l] }

def service (t : Tracing) (e : Endpoint) : Service :=
  e.layers.foldl (fun inner l => l.apply t inner) (e.handler.service t)

end Endpoint

end TracedService.Server
