import TracedService.Export.Delivery
import TracedService.Json.Text
import TracedService.Resource

/-! Printed spans: one line of JSON for a batch, with the resource first and the spans below their
tracers. Times are left out. -/

namespace TracedService.Printout

def array (items : List (List Char)) : List Char :=
  '[' :: Text.joinWith ',' items ++ [']']

def number (n : Nat) : List Char :=
  (toString n).toList

def value : AttributeValue → List Char
  | .text s => Json.object [("stringValue", Json.quoted s)]
  | .integer n => Json.object [("intValue", number n)]

def labelled (a : SpanAttribute) : List Char :=
  Json.object [("key", Json.quoted a.1), ("value", value a.2)]

def event (e : SpanEvent) : List Char :=
  Json.object [("name", Json.quoted e.name), ("attributes", array (e.attributes.map labelled))]

def id (width n : Nat) : List Char :=
  '"' :: Text.Hex.padded width n ++ ['"']

def kind : SpanKind → Nat
  | .internal => 1
  | .server => 2

def status : SpanStatus → List Char
  | .unset => Json.object []
  | .failed d => Json.object [("message", Json.quoted d), ("code", number 1)]

def span (s : Span) : List Char :=
  Json.object [("traceId", id 32 s.context.traceId.toNat), ("spanId", id 16 s.context.spanId.toNat),
    ("parentSpanId", if s.parent = 0 then Json.quoted "" else id 16 s.parent.toNat),
    ("name", Json.quoted s.name), ("kind", number (kind s.kind)),
    ("attributes", array (s.attributes.map labelled)), ("events", array (s.events.map event)),
    ("status", status s.status)]

def scope (name : String) (spans : List Span) : List Char :=
  Json.object [("scope", Json.object [("name", Json.quoted name)]),
    ("spans", array (spans.map span))]

/-- One line for a batch; the tracers stand in order of their first span. -/
def batch (r : Resource) (spans : List Span) : String :=
  let scopes := (spans.map Span.scope).eraseDups
  let attributes := r.attributes.map fun (k, v) => labelled (k, .text v)
  String.ofList (Json.object [("resourceSpans", array [Json.object [
    ("resource", Json.object [("attributes", array attributes)]),
    ("scopeSpans", array (scopes.map fun name => scope name (spans.filter (·.scope == name))))]])])

end TracedService.Printout
