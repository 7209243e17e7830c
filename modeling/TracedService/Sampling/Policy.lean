import TracedService.Number.Literal
import TracedService.Startup.Notice
import TracedService.Text.Blank
import TracedService.Trace.Context

/-! The sampling policy that a rate text asks for, and the decisions it takes. Only the number at
the start of the text counts; a text without one samples every trace. Decisions of the ratio policy
are a threshold on 63 bits of the trace id. -/

namespace TracedService

/-- The sampler of a provider. -/
inductive SamplingPolicy where
  | alwaysOn
  /-- Follow a parent span, else sample this share of the traces. -/
  | parentRatio (ratio : Binary64)
  deriving DecidableEq, Repr

namespace SamplingPolicy

def leadingNumber? (rate : String) : Option Binary64 :=
  (Number.leading? (Text.trimStart rate.toList)).map (·.1)

/-- The policy of a rate text, and what is said about it. -/
def read (rate : String) : SamplingPolicy × List Notice :=
  if rate.isEmpty then (.alwaysOn, [])
  else
    match leadingNumber? rate with
    | none => (.alwaysOn, [.rateUnreadable rate])
    | some .nan => (.alwaysOn, [.rateNotANumber rate])
    | some x => (.parentRatio x.clampUnit, [.ratioChosen x.clampUnit])

def ratio : SamplingPolicy → Binary64
  | alwaysOn => .finite false Binary64.one
  | parentRatio r => r

/-- One more than the highest 63-bit trace number that is sampled. -/
def threshold : SamplingPolicy → Nat
  | alwaysOn => Nat.pow 2 63
  | parentRatio .nan => 0
  | parentRatio (.infinite negative) => if negative then 0 else Nat.pow 2 63
  | parentRatio (.finite negative units) =>
    if negative then 0 else min (units / Nat.pow 2 1011) (Nat.pow 2 63)

/-- The low half of a trace id without its last bit. -/
def traceNumber (id : TraceId) : Nat :=
  id.toNat % Nat.pow 2 64 / 2

/-- Whether a span is sampled under the policy. Under a ratio a parent span decides, and only a
trace that begins here is measured. -/
def samples (p : SamplingPolicy) (parent : Context) (id : TraceId) : Bool :=
  match p, parent.active with
  | alwaysOn, _ => true
  | parentRatio _, some a => a.context.sampled
  | parentRatio _, none => traceNumber id < p.threshold

def traceState (parent : Context) : TraceState :=
  parent.spanContext.traceState

end SamplingPolicy

end TracedService
