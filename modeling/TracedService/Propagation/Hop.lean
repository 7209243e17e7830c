import TracedService.Http.Headers
import TracedService.Propagation.BaggageHeader
import TracedService.Propagation.TraceParent
import TracedService.Trace.Context

/-! One hop between processes: the trace context and the baggage travel in three headers, read and
written independently of each other. -/

namespace TracedService.Hop

open Http (Headers)

def traceParentHeader : String := "traceparent"
def traceStateHeader : String := "tracestate"
def baggageHeader : String := "baggage"

def fields : List String :=
  [traceParentHeader, traceStateHeader, baggageHeader]

/-- The span context that the headers name. A vendor list that cannot be read counts as empty. -/
def spanContext? (h : Headers) : Option SpanContext := do
  let c ← TraceParent.read? ((h.get? traceParentHeader).getD "").toList
  let state := ((h.get? traceStateHeader).bind fun t => TraceState.read? t.toList).getD {}
  some { c with traceState := state }

def extractSpan (c : Context) (h : Headers) : Context :=
  match spanContext? h with
  | some s => c.withRemote s
  | none => c

def extractBaggage (c : Context) (h : Headers) : Context :=
  match h.get? baggageHeader with
  | some t => { c with baggage := c.baggage.insertAll (BaggageHeader.read t.toList) }
  | none => c

/-- The composite propagator of trace context and baggage: what the headers say is laid over the
current context. -/
def extract (current : Context) (h : Headers) : Context :=
  extractBaggage (extractSpan current h) h

/-- A span context is written if it is valid, then always with its vendor list. -/
def injectSpan (c : Context) (h : Headers) : Headers :=
  let s := c.spanContext
  if s.valid then
    (h.set traceParentHeader (String.ofList (TraceParent.write s))).set traceStateHeader
      (String.ofList s.traceState.header)
  else h

def injectBaggage (c : Context) (h : Headers) : Headers :=
  if c.baggage.entries.isEmpty then h
  else h.set baggageHeader (String.ofList (BaggageHeader.write c.baggage))

def inject (c : Context) (h : Headers) : Headers :=
  injectBaggage c (injectSpan c h)

end TracedService.Hop
