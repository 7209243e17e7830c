import TracedService.Trace.SpanContext
import TracedService.Trace.Baggage

/-! The context that surrounds a piece of work: at most one active span, and baggage. -/

namespace TracedService

/-- The active span of a context. `recorder` is the place of the span among those this process
records; a span from outside or one that is not sampled has none. -/
structure ActiveSpan where
  context : SpanContext
  recorder : Option Nat := none
  deriving DecidableEq, Repr

structure Context where
  active : Option ActiveSpan := none
  baggage : Baggage := {}
  deriving DecidableEq, Repr, Inhabited

namespace Context

def spanContext (c : Context) : SpanContext :=
  match c.active with
  | some a => a.context
  | none => .invalid

def withRemote (c : Context) (s : SpanContext) : Context :=
  { c with active := some ⟨s, none⟩ }

end Context

end TracedService
