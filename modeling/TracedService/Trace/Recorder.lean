import TracedService.Sampling.Policy
import TracedService.Trace.Context
import TracedService.Trace.Span

/-! Starting and ending spans. A span continues the trace of the active span around it, else it
begins a trace. Only sampled spans are recorded; the others have ids all the same. -/

namespace TracedService

structure IdSource where
  trace : Nat → TraceId
  span : Nat → SpanId

structure Tracing where
  policy : SamplingPolicy
  ids : IdSource

/-- The numbers of running spans fall, from the count of all spans on. -/
def Recorder.Falling (spans : Nat) (running : List (Nat × Span)) : Prop :=
  (spans :: running.map Prod.fst).Pairwise fun a b => b < a

theorem Recorder.Falling.none : Falling 0 [] :=
  List.pairwise_singleton _ _

/-- Counts of the ids handed out, the recorded spans that still run, under the number of their span
id and with the latest in front, and those that have ended, in order. -/
structure Recorder where
  traces : Nat := 0
  spans : Nat := 0
  running : List (Nat × Span) := []
  ended : List Span := []
  falling : Recorder.Falling spans running := by exact Recorder.Falling.none
  deriving Repr, Inhabited

namespace Recorder

variable {n : Nat} {running kept : List (Nat × Span)}

theorem Falling.skip (h : Falling n running) : Falling (n + 1) running := by
  rw [Falling, List.pairwise_cons] at h ⊢
  exact ⟨fun m hm => Nat.lt_succ_of_lt (h.1 m hm), h.2⟩

theorem Falling.push (h : Falling n running) (s : Span) : Falling (n + 1) ((n, s) :: running) := by
  rw [Falling, List.pairwise_cons]
  refine ⟨?_, h⟩
  intro m hm
  rcases List.mem_cons.mp hm with rfl | hm
  · exact Nat.lt_succ_self _
  · exact Nat.lt_succ_of_lt ((List.pairwise_cons.mp h).1 m hm)

theorem Falling.sublist (h : Falling n running) (hk : kept.Sublist running) : Falling n kept :=
  List.Pairwise.sublist ((hk.map _).cons_cons _) h

theorem Falling.map (h : Falling n running) (f : Nat × Span → Span) :
    Falling n (running.map fun e => (e.1, f e)) := by
  rw [Falling, List.map_map]
  exact h

def traceId (t : Tracing) (r : Recorder) (parent : Context) : TraceId :=
  match parent.active with
  | some a => a.context.traceId
  | none => t.ids.trace r.traces

/-- A local parent hands down its own decision; otherwise the policy decides. -/
def sampled (t : Tracing) (r : Recorder) (parent : Context) : Bool :=
  match parent.active with
  | some a =>
    if a.context.remote then t.policy.samples parent a.context.traceId else a.context.sampled
  | none => t.policy.samples parent (r.traceId t parent)

/-- The context of the next span. A span that is not sampled has no vendor list. -/
def nextContext (t : Tracing) (r : Recorder) (parent : Context) : SpanContext :=
  if r.sampled t parent then
    ⟨r.traceId t parent, t.ids.span r.spans, true, false, SamplingPolicy.traceState parent⟩
  else ⟨r.traceId t parent, t.ids.span r.spans, false, false, {}⟩

def start (t : Tracing) (r : Recorder) (request : SpanRequest) (parent : Context) :
    ActiveSpan × Recorder :=
  let context := r.nextContext t parent
  let traces := if parent.active.isSome then r.traces else r.traces + 1
  if context.sampled then
    let span := Span.begin request context parent.spanContext.spanId
    (⟨context, some r.spans⟩, { r with
      traces := traces
      spans := r.spans + 1
      running := (r.spans, span) :: r.running
      falling := r.falling.push span })
  else (⟨context, none⟩, { r with
    traces := traces
    spans := r.spans + 1
    falling := r.falling.skip })

/-- Changes a span that is recorded and runs; any other is left alone. -/
def update (r : Recorder) (a : ActiveSpan) (f : Span → Span) : Recorder :=
  { r with
    running := r.running.map fun e => (e.1, if a.recorder = some e.1 then f e.2 else e.2)
    falling := r.falling.map _ }

def find? (r : Recorder) (a : ActiveSpan) : Option Span :=
  (r.running.find? fun e => a.recorder = some e.1).map (·.2)

/-- Takes a span out of those that run. -/
def close (r : Recorder) (a : ActiveSpan) : Option Span × Recorder :=
  (r.find? a, { r with
    running := r.running.filter fun e => a.recorder ≠ some e.1
    falling := r.falling.sublist List.filter_sublist })

def finish (r : Recorder) (a : ActiveSpan) : Recorder :=
  let (span, r) := r.close a
  { r with ended := r.ended ++ span.toList }

end Recorder

namespace Context

def withSpan (c : Context) (a : ActiveSpan) : Context :=
  { c with active := some a }

end Context

end TracedService
