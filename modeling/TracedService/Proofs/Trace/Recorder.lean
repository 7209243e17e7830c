import TracedService.Trace.Recorder

/-! What starting, changing and ending a span does to the recorder. The numbers of the running spans
fall, so that the span in front is the only one of its number. -/

namespace TracedService

variable (t : Tracing) (r : Recorder) (request : SpanRequest) (parent : Context)

abbrev SpanHead := String × String × SpanKind × SpanContext × SpanId

/-- What a span keeps from its beginning to its end. -/
def Span.head (s : Span) : SpanHead :=
  (s.scope, s.name, s.kind, s.context, s.parent)

theorem Span.head_addAttribute (a : SpanAttribute) (s : Span) :
    (s.addAttribute a).head = s.head := by
  unfold addAttribute
  split <;> rfl

theorem SamplingPolicy.samples_congr (p : SamplingPolicy) {c d : Context} (id : TraceId)
    (h : c.active.map (·.context.sampled) = d.active.map (·.context.sampled)) :
    p.samples c id = p.samples d id := by
  cases p with
  | alwaysOn => rfl
  | parentRatio ratio =>
    unfold SamplingPolicy.samples
    cases hc : c.active with
    | none =>
      cases hd : d.active with
      | none => rfl
      | some b => simp [hc, hd] at h
    | some a =>
      cases hd : d.active with
      | none => simp [hc, hd] at h
      | some b => simpa [hc, hd] using h

namespace Recorder

@[simp] theorem nextContext_traceId : (r.nextContext t parent).traceId = r.traceId t parent := by
  unfold nextContext
  split <;> rfl

@[simp] theorem nextContext_spanId : (r.nextContext t parent).spanId = t.ids.span r.spans := by
  unfold nextContext
  split <;> rfl

@[simp] theorem nextContext_sampled : (r.nextContext t parent).sampled = r.sampled t parent := by
  unfold nextContext
  split
  · rename_i h
    exact h.symm
  · rename_i h
    exact (Bool.eq_false_iff.mpr h).symm

@[simp] theorem nextContext_remote : (r.nextContext t parent).remote = false := by
  unfold nextContext
  split <;> rfl

theorem start_context : (r.start t request parent).1.context = r.nextContext t parent := by
  cases h : r.sampled t parent <;> simp [start, h]

theorem start_recorder :
    (r.start t request parent).1.recorder = if r.sampled t parent then some r.spans else none := by
  cases h : r.sampled t parent <;> simp [start, h]

theorem start_ended : (r.start t request parent).2.ended = r.ended := by
  cases h : r.sampled t parent <;> simp [start, h]

theorem start_spans : (r.start t request parent).2.spans = r.spans + 1 := by
  cases h : r.sampled t parent <;> simp [start, h]

theorem start_traces : (r.start t request parent).2.traces =
    if parent.active.isSome then r.traces else r.traces + 1 := by
  cases h : r.sampled t parent <;> simp [start, h]

/-- The span runs in front of the rest, if it is recorded at all. -/
def Leads (r : Recorder) (a : ActiveSpan) (s : Span) (rest : List (Nat × Span)) : Prop :=
  r.running = (a.recorder.map fun n => (n, s)).toList ++ rest

theorem leads_start : (r.start t request parent).2.Leads (r.start t request parent).1
    (Span.begin request (r.nextContext t parent) parent.spanContext.spanId) r.running := by
  rw [Leads, start_recorder]
  cases h : r.sampled t parent <;> simp [start, h]

variable {r} {a : ActiveSpan} {s : Span} {rest : List (Nat × Span)}

@[simp] theorem update_ended (f : Span → Span) : (r.update a f).ended = r.ended := rfl

/-- None of the others has the number of the span in front. -/
theorem Leads.ne_of_mem (h : r.Leads a s rest) : ∀ e ∈ rest, a.recorder ≠ some e.1 := by
  intro e he hn
  have hfalling := r.falling
  rw [show r.running = _ from h, hn] at hfalling
  simp only [Recorder.Falling, Option.map_some, Option.toList_some, List.singleton_append,
    List.map_cons, List.pairwise_cons] at hfalling
  exact Nat.lt_irrefl _ (hfalling.2.1 e.1 (List.mem_map_of_mem he))

theorem Leads.update (h : r.Leads a s rest) (f : Span → Span) :
    (r.update a f).Leads a (f s) rest := by
  have hrest : rest.map (fun e => (e.1, if a.recorder = some e.1 then f e.2 else e.2)) = rest := by
    refine .trans (List.map_congr_left ?_) (List.map_id rest)
    intro e he
    rw [if_neg (h.ne_of_mem e he)]
    rfl
  change r.running.map (fun e => (e.1, if a.recorder = some e.1 then f e.2 else e.2)) = _
  rw [show r.running = _ from h, List.map_append, hrest]
  cases ha : a.recorder with
  | none => rfl
  | some n => simp

/-- What ends in front leaves the rest as it was. -/
theorem Leads.finish (h : r.Leads a s rest) :
    (r.finish a).running = rest ∧
      (r.finish a).ended = r.ended ++ (a.recorder.map fun _ => s).toList := by
  have hrest : (rest.filter fun e => decide (a.recorder ≠ some e.1)) = rest := by
    rw [List.filter_eq_self]
    intro e he
    exact decide_eq_true (h.ne_of_mem e he)
  have hrunning : r.running = (a.recorder.map fun n => (n, s)).toList ++ rest := h
  constructor
  · change (r.running.filter fun e => decide (a.recorder ≠ some e.1)) = rest
    rw [hrunning, List.filter_append, hrest]
    cases ha : a.recorder with
    | none => rfl
    | some n => simp
  · cases ha : a.recorder with
    | none => simp [Recorder.finish, close, find?, ha]
    | some n => simp [Recorder.finish, close, find?, hrunning, ha]

/-- The running spans, without what may be added to them. -/
def outline (r : Recorder) : List (Nat × SpanHead) :=
  r.running.map fun e => (e.1, e.2.head)

theorem outline_update {f : Span → Span} (hf : ∀ s, (f s).head = s.head) :
    (r.update a f).outline = r.outline := by
  rw [outline, update, List.map_map]
  refine List.map_congr_left fun e _ => ?_
  simp only [Function.comp]
  split
  · rw [hf]
  · rfl

theorem Leads.outline (h : r.Leads a s rest) :
    r.outline = (a.recorder.map fun n => (n, s.head)).toList ++
      rest.map fun e => (e.1, e.2.head) := by
  rw [Recorder.outline, show r.running = _ from h, List.map_append]
  cases a.recorder <;> rfl

theorem Leads.of_outline {r' : Recorder} (h : r.Leads a s rest) (ho : r'.outline = r.outline) :
    ∃ s' rest', r'.Leads a s' rest' ∧ s'.head = s.head ∧
      (rest'.map fun e => (e.1, e.2.head)) = rest.map fun e => (e.1, e.2.head) := by
  rw [h.outline] at ho
  cases ha : a.recorder with
  | none =>
    rw [ha] at ho
    exact ⟨s, r'.running, by rw [Leads, ha]; rfl, rfl, ho⟩
  | some n =>
    rw [ha] at ho
    obtain ⟨e, rest', hrunning, he, hrest⟩ := List.map_eq_cons_iff.mp ho
    obtain ⟨hn, hhead⟩ := Prod.mk.injEq .. ▸ he
    exact ⟨e.2, rest', by rw [Leads, ha, hrunning, ← hn]; rfl, hhead, hrest⟩

variable (r)

/-- A span ends where it began: if the outline is again what it was after the start, then after the
end it is what it was before, and the span is kept if it is sampled. -/
theorem finish_start {r' : Recorder} (ho : r'.outline = (r.start t request parent).2.outline) :
    (r'.finish (r.start t request parent).1).outline = r.outline ∧
      ∃ kept, (r'.finish (r.start t request parent).1).ended = r'.ended ++ kept ∧
        kept.map Span.head = if r.sampled t parent then [(request.scope, request.name,
          request.kind, r.nextContext t parent, parent.spanContext.spanId)] else [] := by
  obtain ⟨s, rest, hleads, hhead, hrest⟩ := (leads_start t r request parent).of_outline ho
  obtain ⟨hrunning, hended⟩ := hleads.finish
  refine ⟨?_, _, hended, ?_⟩
  · rw [outline, hrunning, hrest]
    rfl
  · rw [start_recorder]
    cases r.sampled t parent
    · rfl
    · exact congrArg ([·]) hhead

end Recorder

end TracedService
