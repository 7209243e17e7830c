import TracedService.Trace.SpanContext

/-! Spans as they are recorded and exported. -/

namespace TracedService

inductive SpanKind where
  | internal
  | server
  deriving DecidableEq, Repr

inductive AttributeValue where
  | text (s : String)
  | integer (n : Nat)
  deriving DecidableEq, Repr

abbrev SpanAttribute := String × AttributeValue

structure SpanEvent where
  name : String
  attributes : List SpanAttribute := []
  deriving DecidableEq, Repr

inductive SpanStatus where
  | unset
  | failed (description : String)
  deriving DecidableEq, Repr

structure SpanRequest where
  scope : String
  name : String
  kind : SpanKind := .internal
  attributes : List SpanAttribute := []
  deriving DecidableEq, Repr

/-- A recorded span; the parent's id is zero where there is none. A key may occur more than once
among the attributes. -/
structure Span where
  scope : String
  name : String
  kind : SpanKind
  context : SpanContext
  parent : SpanId
  attributes : List SpanAttribute := []
  events : List SpanEvent := []
  status : SpanStatus := .unset
  deriving DecidableEq, Repr

namespace Span

/-- Attributes beyond this number are not kept. -/
def maxAttributes : Nat := 128

def maxEvents : Nat := 128

def begin (r : SpanRequest) (context : SpanContext) (parent : SpanId) : Span where
  scope := r.scope
  name := r.name
  kind := r.kind
  context := context
  parent := parent
  attributes := r.attributes.take maxAttributes

def addAttribute (a : SpanAttribute) (s : Span) : Span :=
  if s.attributes.length < maxAttributes then { s with attributes := s.attributes ++ [a] } else s

def addEvent (e : SpanEvent) (s : Span) : Span :=
  if s.events.length < maxEvents then { s with events := s.events ++ [e] } else s

def setStatus (status : SpanStatus) (s : Span) : Span :=
  { s with status := status }

end Span

end TracedService
