import TracedService.Proofs.Propagation.Hop
import TracedService.Proofs.Trace.Recorder

/-! A recorder that goes on where another one has come to. It does what a new recorder does with the
ids that are left; only the numbers of its spans are higher. -/

namespace TracedService

/-- The ids that are left once so many are used. -/
def IdSource.drop (ids : IdSource) (traces spans : Nat) : IdSource :=
  ⟨fun n => ids.trace (traces + n), fun n => ids.span (spans + n)⟩

def ActiveSpan.shift (n : Nat) (a : ActiveSpan) : ActiveSpan :=
  { a with recorder := a.recorder.map (n + ·) }

def Context.shift (n : Nat) (c : Context) : Context :=
  { c with active := c.active.map (·.shift n) }

namespace Context

/-- The active span, if any, is not one that is recorded here. -/
def Outside (c : Context) : Prop :=
  ∀ a, c.active = some a → a.recorder = none

theorem Outside.default : Outside {} :=
  nofun

variable {n : Nat} {c : Context}

theorem Outside.shift (h : c.Outside) (n : Nat) : c.shift n = c := by
  unfold Context.shift
  cases ha : c.active with
  | none => exact congrArg (Context.mk · c.baggage) ha.symm
  | some a =>
    have hnone : a.shift n = a := by
      rw [ActiveSpan.shift, h a ha]
      exact congrArg (ActiveSpan.mk a.context) (h a ha).symm
    rw [Option.map_some, hnone, ← ha]

theorem shift_spanContext : (c.shift n).spanContext = c.spanContext := by
  unfold spanContext shift
  cases c.active <;> rfl

theorem shift_withSpan (a : ActiveSpan) :
    (c.withSpan a).shift n = (c.shift n).withSpan (a.shift n) := rfl

/-- What the headers say is not of this process. -/
theorem shift_extract (h : Http.Headers) :
    (Hop.extract c h).shift n = Hop.extract (c.shift n) h := by
  have hspan : (Hop.extractSpan c h).shift n = Hop.extractSpan (c.shift n) h := by
    unfold Hop.extractSpan
    cases Hop.spanContext? h <;> rfl
  rw [Hop.extract, Hop.extract, ← hspan]
  unfold Hop.extractBaggage
  cases h.get? Hop.baggageHeader <;> rfl

theorem shift_samples (p : SamplingPolicy) (id : TraceId) :
    p.samples (c.shift n) id = p.samples c id := by
  refine p.samples_congr id ?_
  unfold shift
  cases c.active <;> rfl

end Context

namespace Recorder

variable (t : Tracing) (b r : Recorder) (a : ActiveSpan)

theorem ext_fields {r r' : Recorder} (traces : r.traces = r'.traces) (spans : r.spans = r'.spans)
    (running : r.running = r'.running) (ended : r.ended = r'.ended) : r = r' := by
  cases r
  cases r'
  cases traces
  cases spans
  cases running
  cases ended
  rfl

theorem lt_of_mem_running {r : Recorder} {e : Nat × Span} (h : e ∈ r.running) : e.1 < r.spans :=
  (List.pairwise_cons.mp r.falling).1 e.1 (List.mem_map_of_mem h)

/-- The recorder `r` going on from `b`. -/
def on : Recorder where
  traces := b.traces + r.traces
  spans := b.spans + r.spans
  running := r.running.map (fun e => (b.spans + e.1, e.2)) ++ b.running
  ended := b.ended ++ r.ended
  falling := by
    have hnumbers : (b.spans + r.spans) :: (r.running.map (fun e => (b.spans + e.1, e.2)) ++
        b.running).map Prod.fst =
          (r.spans :: r.running.map Prod.fst).map (b.spans + ·) ++ b.running.map Prod.fst := by
      simp
    rw [Falling, hnumbers, List.pairwise_append]
    refine ⟨?_, (List.pairwise_cons.mp b.falling).2, ?_⟩
    · rw [List.pairwise_map]
      exact r.falling.imp fun h => Nat.add_lt_add_left h b.spans
    · intro m hm k hk
      obtain ⟨n, -, rfl⟩ := List.mem_map.mp hm
      exact Nat.lt_of_lt_of_le ((List.pairwise_cons.mp b.falling).1 k hk) (Nat.le_add_right _ _)

def rest : Tracing :=
  ⟨t.policy, t.ids.drop b.traces b.spans⟩

theorem on_new : Recorder.on b {} = b :=
  ext_fields rfl rfl rfl (List.append_nil _)

variable (request : SpanRequest) (parent : Context)

theorem traceId_on : (b.on r).traceId t (parent.shift b.spans) =
    r.traceId (b.rest t) parent := by
  unfold traceId Context.shift
  cases parent.active <;> rfl

theorem sampled_on : (b.on r).sampled t (parent.shift b.spans) = r.sampled (b.rest t) parent := by
  unfold sampled
  rw [traceId_on]
  simp only [Context.shift_samples]
  unfold Context.shift
  cases parent.active <;> rfl

theorem nextContext_on :
    (b.on r).nextContext t (parent.shift b.spans) = r.nextContext (b.rest t) parent := by
  unfold nextContext SamplingPolicy.traceState
  rw [sampled_on, traceId_on, Context.shift_spanContext]
  rfl

theorem start_on : (b.on r).start t request (parent.shift b.spans) =
    ((r.start (b.rest t) request parent).1.shift b.spans,
      b.on (r.start (b.rest t) request parent).2) := by
  have htraces : (if (parent.shift b.spans).active.isSome then (b.on r).traces
      else (b.on r).traces + 1) =
        b.traces + if parent.active.isSome then r.traces else r.traces + 1 := by
    unfold Context.shift
    cases parent.active <;> rfl
  unfold start
  simp only [nextContext_on, htraces, Context.shift_spanContext]
  split
  · exact congrArg _ (ext_fields rfl rfl rfl rfl)
  · exact congrArg _ (ext_fields rfl rfl rfl rfl)

theorem shift_ne {e : Nat × Span} (h : e ∈ b.running) : (a.shift b.spans).recorder ≠ some e.1 := by
  intro he
  obtain ⟨n, -, hn⟩ := Option.map_eq_some_iff.mp he
  have := lt_of_mem_running h
  omega

theorem shift_eq_iff (n : Nat) : (a.shift b.spans).recorder = some (b.spans + n) ↔
    a.recorder = some n := by
  simp [ActiveSpan.shift]

theorem update_on (f : Span → Span) :
    (b.on r).update (a.shift b.spans) f = b.on (r.update a f) := by
  have hbefore : b.running.map (fun e => (e.1,
      if (a.shift b.spans).recorder = some e.1 then f e.2 else e.2)) = b.running := by
    refine .trans (List.map_congr_left ?_) (List.map_id _)
    intro e he
    rw [if_neg (shift_ne b a he)]
    rfl
  refine ext_fields rfl rfl ?_ rfl
  simp only [update, on, List.map_append, List.map_map, hbefore]
  congr 1
  refine List.map_congr_left fun e _ => ?_
  simp [shift_eq_iff]

theorem finish_on : (b.on r).finish (a.shift b.spans) = b.on (r.finish a) := by
  have hfind : (b.on r).find? (a.shift b.spans) = r.find? a := by
    have hbefore : b.running.find? (fun e => (a.shift b.spans).recorder = some e.1) = none := by
      rw [List.find?_eq_none]
      intro e he
      simp [shift_ne b a he]
    simp only [find?, on, List.find?_append, List.find?_map, hbefore, Option.or_none,
      Option.map_map]
    simp [Function.comp_def, shift_eq_iff]
  refine ext_fields rfl rfl ?_ ?_
  · have hbefore : (b.running.filter fun e => decide ((a.shift b.spans).recorder ≠ some e.1)) =
        b.running := by
      rw [List.filter_eq_self]
      intro e he
      exact decide_eq_true (shift_ne b a he)
    simp only [finish, close, on, List.filter_append, List.filter_map, hbefore]
    simp [Function.comp_def, shift_eq_iff]
  · simp only [finish, close, hfind]
    simp [on]

end Recorder

end TracedService
