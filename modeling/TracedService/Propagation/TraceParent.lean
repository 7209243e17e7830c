import TracedService.Text.Blank
import TracedService.Text.Hex
import TracedService.Trace.SpanContext

/-! The `traceparent` header: version, trace id, span id and flags in hexadecimal, joined by dashes.
A reader takes versions up to 254; the fields behind the flags belong to later versions only. -/

namespace TracedService.TraceParent

open Text (Hex.read? Hex.padded)

def maxVersion : Nat := 254

def id? (width : Nat) (s : List Char) : Option (BitVec width) :=
  if s.any Text.isCapital then none
  else (Hex.read? (Nat.pow 2 width) s).map (BitVec.ofNat width)

/-- Trace id, span id and sampled flag of a header text, if it names a valid span. -/
def read? (header : List Char) : Option SpanContext :=
  let parts := Text.splitTerminated '-' (Text.trim header)
  match parts with
  | version :: trace :: span :: flags :: later => do
    let version ← (Hex.read? 256 version).filter (· ≤ maxVersion)
    let traceId ← id? 128 trace
    let spanId ← id? 64 span
    let flags ← Hex.read? 256 flags
    if version = 0 && (!later.isEmpty || 2 < flags) then none
    else
      let c : SpanContext := ⟨traceId, spanId, flags % 2 = 1, true, {}⟩
      if c.valid then some c else none
  | _ => none

def write (c : SpanContext) : List Char :=
  Text.joinWith '-'
    [Hex.padded 2 0, Hex.padded 32 c.traceId.toNat, Hex.padded 16 c.spanId.toNat,
      Hex.padded 2 (if c.sampled then 1 else 0)]

end TracedService.TraceParent
