import TracedService.Http.Message
import TracedService.Trace.Recorder

/-! Handlers of requests, and what surrounds a request on its way to one. -/

namespace TracedService.Server

/-- A request under way. `route` is the pattern it was routed by, `current` the context around it,
and `left` the context that a tracing layer left with the request. -/
structure Arrival where
  request : Http.Request
  route : Option String := none
  current : Context := {}
  left : Option Context := none
  deriving DecidableEq, Repr

/-- A handler starts and ends a span for each of its children and then replies. -/
structure Handler where
  children : List String := []
  reply : Arrival → Http.Response

abbrev Service := Arrival → Recorder → Http.Response × Recorder

namespace Handler

def scope : String := "handler"

def constant (response : Http.Response) : Handler where
  reply _ := response

def notFound : Handler := constant ⟨404, [], none⟩

def methodNotAllowed : Handler := constant ⟨405, [], none⟩

def child (t : Tracing) (current : Context) (r : Recorder) (name : String) : Recorder :=
  let (a, r) := r.start t ⟨scope, name, .internal, []⟩ current
  r.finish a

def service (t : Tracing) (h : Handler) : Service := fun i r =>
  (h.reply i, h.children.foldl (child t i.current) r)

end Handler

end TracedService.Server
