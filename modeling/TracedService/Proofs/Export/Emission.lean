import TracedService.Proofs.Export.Schedule
import TracedService.Proofs.Startup.Outcome
import TracedService.Proofs.Trace.Recorder
import TracedService.Startup.SelfTest

/-! From a build to what arrives. Self-tests and other spans that begin a trace each are recorded if
the policy samples their trace, and what is recorded arrives under the resource of the build. -/

namespace TracedService

/-- A span that begins a trace and ends before the next one starts. -/
structure Emission where
  request : SpanRequest
  events : List SpanEvent := []

namespace Emission

def selfTest : Emission :=
  ⟨SelfTest.request, [⟨SelfTest.eventName, []⟩]⟩

def named (scope name : String) : Emission :=
  ⟨⟨scope, name, .internal, []⟩, []⟩

/-- What is recorded of an emission if its trace is sampled. -/
def span (e : Emission) (traceId : TraceId) (spanId : SpanId) : Span where
  scope := e.request.scope
  name := e.request.name
  kind := e.request.kind
  context := ⟨traceId, spanId, true, false, {}⟩
  parent := 0
  attributes := e.request.attributes.take Span.maxAttributes
  events := e.events

/-- What is recorded of emissions whose ids are handed out from the `n`th on. -/
def recorded (t : Tracing) (n : Nat) : List Emission → List Span
  | [] => []
  | e :: es =>
    if t.policy.samples {} (t.ids.trace n) then
      e.span (t.ids.trace n) (t.ids.span n) :: recorded t (n + 1) es
    else recorded t (n + 1) es

theorem recorded_cons (t : Tracing) (n : Nat) (e : Emission) (es : List Emission) :
    recorded t n (e :: es) = recorded t n [e] ++ recorded t (n + 1) es := by
  rw [recorded, recorded, recorded]
  split <;> rfl

theorem recorded_append (t : Tracing) (n : Nat) (es fs : List Emission) :
    recorded t n (es ++ fs) = recorded t n es ++ recorded t (n + es.length) fs := by
  induction es generalizing n with
  | nil => rfl
  | cons e es ih =>
    rw [List.cons_append, recorded_cons, ih, recorded_cons t n e es, List.append_assoc,
      List.length_cons, Nat.add_assoc, Nat.add_comm 1]

theorem length_recorded_le (t : Tracing) (n : Nat) (es : List Emission) :
    (recorded t n es).length ≤ es.length := by
  induction es generalizing n with
  | nil => exact Nat.le_refl 0
  | cons e es ih =>
    have hrest := ih (n + 1)
    rw [recorded]
    split <;> simp only [List.length_cons] <;> omega

theorem scope_of_mem_recorded {t : Tracing} {n : Nat} {es : List Emission} {scope : String}
    (h : ∀ e ∈ es, e.request.scope = scope) : ∀ s ∈ recorded t n es, s.scope = scope := by
  induction es generalizing n with
  | nil => nofun
  | cons e es ih =>
    have hrest := ih (n := n + 1) fun e' he' => h e' (List.mem_cons_of_mem _ he')
    intro s hs
    rw [recorded] at hs
    split at hs
    · rcases List.mem_cons.mp hs with rfl | hs
      · exact h e List.mem_cons_self
      · exact hrest s hs
    · exact hrest s hs

/-- Self-tests, then a tracer's spans with these names. -/
def batch (selfTests : Nat) (scope : String) (names : List String) : List Emission :=
  List.replicate selfTests selfTest ++ names.map (named scope)

theorem grouped_batch (t : Tracing) (selfTests : Nat) (scope : String) (names : List String) :
    Exporter.Grouped SelfTest.scope scope (recorded t 0 (batch selfTests scope names)) := by
  refine ⟨_, _, recorded_append t 0 _ _, scope_of_mem_recorded ?_, scope_of_mem_recorded ?_⟩
  · intro e he
    rw [(List.mem_replicate.mp he).2]
    rfl
  · intro e he
    obtain ⟨name, -, rfl⟩ := List.mem_map.mp he
    rfl

end Emission

namespace Recorder

variable {t : Tracing} {n : Nat} {spans : List Span} {r r' : Recorder}

/-- `n` ids of each kind have been handed out, and these spans have ended. -/
structure At (r : Recorder) (n : Nat) (spans : List Span) : Prop where
  traceCount : r.traces = n
  spanCount : r.spans = n
  ended : r.ended = spans

/-- A span that begins a trace, ended with these events in it. -/
theorem At.emit (h : r.At n spans) (e : Emission) {s : Span}
    (hleads : r'.Leads (r.start t e.request {}).1 s r.running)
    (hs : s = { Span.begin e.request (r.nextContext t {}) 0 with events := e.events })
    (hcounts : r'.traces = n + 1 ∧ r'.spans = n + 1 ∧ r'.ended = spans) :
    (r'.finish (r.start t e.request {}).1).At (n + 1) (spans ++ Emission.recorded t n [e]) := by
  refine ⟨hcounts.1, hcounts.2.1, ?_⟩
  have hid : r.traceId t {} = t.ids.trace n := congrArg t.ids.trace h.traceCount
  have hsampled : r.sampled t {} = t.policy.samples {} (t.ids.trace n) := by
    rw [← hid]
    rfl
  rw [hleads.finish.2, hcounts.2.2, start_recorder, hsampled, Emission.recorded, hs]
  cases hp : t.policy.samples {} (t.ids.trace n) with
  | false => rfl
  | true =>
    simp only [nextContext, hsampled, hp, if_true, hid, h.spanCount]
    rfl

theorem At.start (h : r.At n spans) (request : SpanRequest) :
    (r.start t request {}).2.traces = n + 1 ∧ (r.start t request {}).2.spans = n + 1 ∧
      (r.start t request {}).2.ended = spans := by
  refine ⟨?_, by rw [start_spans, h.spanCount], by rw [start_ended, h.ended]⟩
  rw [start_traces, h.traceCount]
  rfl

def named (t : Tracing) (scope : String) (r : Recorder) (names : List String) : Recorder :=
  names.foldl (fun r name =>
    let (a, r) := r.start t ⟨scope, name, .internal, []⟩ {}
    r.finish a) r

theorem At.named (h : r.At n spans) (scope : String) (names : List String) :
    (r.named t scope names).At (n + names.length)
      (spans ++ Emission.recorded t n (names.map (Emission.named scope))) := by
  induction names generalizing r n spans with
  | nil => simpa [Recorder.named, Emission.recorded] using h
  | cons name names ih =>
    have hfirst := h.emit (t := t) (Emission.named scope name)
      (leads_start t r (Emission.named scope name).request {}) rfl (h.start _)
    have hall := ih hfirst
    rw [List.append_assoc, Nat.add_assoc, Nat.add_comm 1] at hall
    rw [List.map_cons, Emission.recorded_cons]
    exact hall

end Recorder

namespace SelfTest

variable {t : Tracing} {n : Nat} {spans : List Span} {r : Recorder}

/-- Self-tests one after the other, on a processor that exports and does not crash. -/
def repeated (t : Tracing) (r : Recorder) : Nat → Recorder
  | 0 => r
  | n + 1 => repeated t (run t [{ exports := true }] r).2 n

theorem finish_exporting (r : Recorder) (a : ActiveSpan) :
    finish [{ exports := true }] r a = (none, r.finish a) := by
  unfold finish Recorder.finish
  cases hc : r.close a with
  | mk span rest =>
    cases span with
    | none => simp
    | some s => simp [handOver]

theorem run_at (h : r.At n spans) :
    (run t [{ exports := true }] r).2.At (n + 1)
      (spans ++ Emission.recorded t n [Emission.selfTest]) := by
  have hrun : (run t [{ exports := true }] r).2 =
      ((r.start t request {}).2.update (r.start t request {}).1
        (Span.addEvent ⟨eventName, []⟩)).finish (r.start t request {}).1 := by
    simp only [run, startCrash?, List.findSome?_cons, List.findSome?_nil, finish_exporting]
  rw [hrun]
  exact h.emit Emission.selfTest ((Recorder.leads_start t r request {}).update _) rfl
    (h.start request)

theorem repeated_at (h : r.At n spans) (selfTests : Nat) :
    (repeated t r selfTests).At (n + selfTests)
      (spans ++ Emission.recorded t n (List.replicate selfTests Emission.selfTest)) := by
  induction selfTests generalizing r n spans with
  | zero => simpa [repeated, Emission.recorded] using h
  | succ selfTests ih =>
    have hall := ih (run_at (t := t) h)
    rw [List.append_assoc, Nat.add_assoc, Nat.add_comm 1] at hall
    rw [List.replicate_succ, Emission.recorded_cons]
    exact hall

end SelfTest

/-- The spans of a provider that have ended after self-tests and further spans. -/
def Provider.ended (provider : Provider) (ids : IdSource) (selfTests : Nat) (scope : String)
    (names : List String) : List Span :=
  ((SelfTest.repeated ⟨provider.policy, ids⟩ {} selfTests).named ⟨provider.policy, ids⟩ scope
    names).ended

theorem Provider.ended_eq (provider : Provider) (ids : IdSource) (selfTests : Nat) (scope : String)
    (names : List String) : provider.ended ids selfTests scope names =
      Emission.recorded ⟨provider.policy, ids⟩ 0 (Emission.batch selfTests scope names) := by
  have hfresh : ({} : Recorder).At 0 [] := ⟨rfl, rfl, rfl⟩
  have htests := SelfTest.repeated_at (t := ⟨provider.policy, ids⟩) hfresh selfTests
  rw [Emission.batch, Emission.recorded_append, List.length_replicate]
  exact (htests.named scope names).ended

end TracedService
