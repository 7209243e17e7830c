import TracedService.Text.Ascii
import TracedService.Text.Split
import TracedService.Text.Utf8

/-! What identifies a span across processes: trace id, span id, the sampled flag, whether it came
from outside, and the vendor list that travels with the trace. -/

namespace TracedService

abbrev TraceId := BitVec 128
abbrev SpanId := BitVec 64

/-- Vendor entries in the order of the header; a key may occur more than once. -/
structure TraceState where
  entries : List (List Char × List Char) := []
  deriving DecidableEq, Repr, Inhabited

namespace TraceState

def isLowerOrDigit (c : Char) : Bool :=
  Text.isSmall c || Text.isDigit c

def isKeyChar (c : Char) : Bool :=
  isLowerOrDigit c || c == '_' || c == '-' || c == '*' || c == '/'

def validVendor : List Char → Bool
  | [] => true
  | c :: r => isLowerOrDigit c && r.all isKeyChar && r.length < 13

/-- A key starts with a small letter or digit and has at most 256 characters. It may name a vendor
of at most 13 characters behind one `@`. -/
def validKey (key : List Char) : Bool :=
  key.length ≤ 256 &&
    match key with
    | [] => true
    | c :: _ =>
      isLowerOrDigit c &&
        match Text.cutFirst? '@' key with
        | none => key.all isKeyChar
        | some (tenant, vendor) => tenant.all isKeyChar && validVendor vendor

def validValue (value : List Char) : Bool :=
  Text.Utf8.length value ≤ 256 && value.all fun c => c != ',' && c != '='

def member? (s : List Char) : Option (List Char × List Char) :=
  (Text.cutFirst? '=' s).map fun (key, value) => (key, value.dropWhile (· == '='))

/-- One bad member spoils the whole list. -/
def read? (s : List Char) : Option TraceState := do
  let entries ← (Text.splitTerminated ',' s).mapM member?
  if entries.all fun (k, v) => validKey k && validValue v then some ⟨entries⟩ else none

def header (t : TraceState) : List Char :=
  Text.joinWith ',' (t.entries.map fun (k, v) => k ++ '=' :: v)

end TraceState

structure SpanContext where
  traceId : TraceId
  spanId : SpanId
  sampled : Bool
  remote : Bool
  traceState : TraceState := {}
  deriving DecidableEq, Repr

namespace SpanContext

def invalid : SpanContext :=
  ⟨0, 0, false, false, {}⟩

def valid (c : SpanContext) : Bool :=
  c.traceId != 0 && c.spanId != 0

end SpanContext

end TracedService
