import TracedService.Proofs.Export.Delivery

/-! A pipeline behind its queue. Spans that end are queued, and a worker takes them from there at
its own pace and exports what waits when an export is due. Whatever the pace, nothing is lost,
doubled or put out of order as long as exports work and the queue has room. -/

namespace TracedService

/-- What may happen between the end of a span and its export. -/
inductive QueueEvent where
  | ended (s : Span)
  /-- The worker takes the span in front of the queue. -/
  | taken
  /-- The time of a scheduled export has come. -/
  | due

/-- The spans that end, in order. -/
def QueueEvent.spans : List QueueEvent → List Span
  | [] => []
  | .ended s :: hs => s :: spans hs
  | _ :: hs => spans hs

/-- Spans that the worker has not taken yet, and its pipeline. -/
structure Backlog where
  queue : List Span := []
  pipeline : Pipeline

namespace Backlog

def capacity : Nat := 2048

/-- A span that finds no room is lost. -/
def step (net : Network) (b : Backlog) : QueueEvent → Backlog × List Delivery
  | .ended s => (if b.queue.length < capacity then { b with queue := b.queue ++ [s] } else b, [])
  | .taken =>
    match b.queue with
    | [] => (b, [])
    | s :: rest => (⟨rest, (b.pipeline.push net s).1⟩, (b.pipeline.push net s).2)
  | .due => ({ b with pipeline := (b.pipeline.flush net).2.1 }, (b.pipeline.flush net).2.2)

def run (net : Network) (b : Backlog) : List QueueEvent → Backlog × List Delivery
  | [] => (b, [])
  | h :: hs =>
    let (b, made) := b.step net h
    let (b, later) := run net b hs
    (b, made ++ later)

/-- A flush waits for its turn in the queue: the worker takes all spans before it exports. -/
def flush (net : Network) (b : Backlog) : Except String Unit × Backlog × List Delivery :=
  let (p, early) := b.pipeline.pushAll net b.queue
  let (result, p, late) := p.flush net
  (result, { pipeline := p }, early ++ late)

def pending (b : Backlog) : List Span :=
  b.pipeline.waiting ++ b.queue

end Backlog

/-- The delivered spans, each with the resource that labels it. -/
def Delivery.labelled (d : Delivery) : List (Resource × Span) :=
  d.spans.map fun s => (d.resource, s)

/-- A pipeline of this exporter and this resource makes such a delivery of some batch. -/
def Exporter.CanDeliver (net : Network) (e : Exporter) (r : Resource) (d : Delivery) : Prop :=
  ∃ batch, d = { e.deliver net batch with resource := r }

namespace Pipeline

variable {net : Network} {p q q' : Pipeline} {made later : List Delivery}

/-- From `p` to `q` the exporter stays, and the deliveries are its own. -/
structure OwnDeliveries (net : Network) (p q : Pipeline) (made : List Delivery) : Prop where
  exporter : q.exporter = p.exporter
  resource : q.resource = p.resource
  own : ∀ d ∈ made, p.exporter.CanDeliver net p.resource d

theorem OwnDeliveries.refl (net : Network) (p : Pipeline) : OwnDeliveries net p p [] :=
  ⟨rfl, rfl, nofun⟩

theorem OwnDeliveries.trans (h : OwnDeliveries net p q made) (k : OwnDeliveries net q q' later) :
    OwnDeliveries net p q' (made ++ later) where
  exporter := k.exporter.trans h.exporter
  resource := k.resource.trans h.resource
  own := by
    intro d hd
    rcases List.mem_append.mp hd with hd | hd
    · exact h.own d hd
    · have hdelivery := k.own d hd
      rwa [h.exporter, h.resource] at hdelivery

theorem OwnDeliveries.labelled (h : OwnDeliveries net p q made) :
    made.flatMap Delivery.labelled =
      (made.flatMap Delivery.spans).map fun s => (p.resource, s) := by
  rw [List.map_flatMap, List.flatMap_def, List.flatMap_def]
  refine congrArg List.flatten (List.map_congr_left fun d hd => ?_)
  obtain ⟨batch, rfl⟩ := h.own d hd
  rfl

theorem exportAll_ownDeliveries (net : Network) (p : Pipeline) :
    OwnDeliveries net p (p.exportAll net).2 [(p.exportAll net).1] := by
  refine ⟨rfl, rfl, fun d hd => ⟨p.waiting, ?_⟩⟩
  rw [List.mem_singleton.mp hd]
  rfl

theorem push_ownDeliveries (net : Network) (p : Pipeline) (s : Span) :
    OwnDeliveries net p (p.push net s).1 (p.push net s).2 := by
  have htaken : OwnDeliveries net p { p with waiting := p.waiting ++ [s] } [] := ⟨rfl, rfl, nofun⟩
  unfold push
  split
  · exact .refl net p
  · dsimp only
    split
    · exact htaken.trans (exportAll_ownDeliveries net _)
    · exact htaken

theorem pushAll_ownDeliveries (net : Network) (p : Pipeline) (spans : List Span) :
    OwnDeliveries net p (p.pushAll net spans).1 (p.pushAll net spans).2 := by
  induction spans generalizing p with
  | nil => exact .refl net p
  | cons s spans ih => exact (push_ownDeliveries net p s).trans (ih _)

theorem flush_ownDeliveries (net : Network) (p : Pipeline) :
    OwnDeliveries net p (p.flush net).2.1 (p.flush net).2.2 := by
  unfold flush
  split
  · exact .refl net p
  · split
    · exact .refl net p
    · exact exportAll_ownDeliveries net p

end Pipeline

namespace Backlog

variable {net : Network} {b : Backlog} {event : QueueEvent} {hs : List QueueEvent}

theorem step_ownDeliveries (net : Network) (b : Backlog) (event : QueueEvent) :
    Pipeline.OwnDeliveries net b.pipeline (b.step net event).1.pipeline (b.step net event).2 := by
  cases event with
  | ended s =>
    rw [step]
    split <;> exact .refl net b.pipeline
  | taken =>
    cases hq : b.queue with
    | nil =>
      rw [step, hq]
      exact .refl net b.pipeline
    | cons s rest =>
      rw [step, hq]
      exact Pipeline.push_ownDeliveries net b.pipeline s
  | due => exact Pipeline.flush_ownDeliveries net b.pipeline

/-- All deliveries of a run come from the exporter it began with. -/
theorem run_ownDeliveries (net : Network) (b : Backlog) (hs : List QueueEvent) :
    Pipeline.OwnDeliveries net b.pipeline (b.run net hs).1.pipeline (b.run net hs).2 := by
  induction hs generalizing b with
  | nil => exact .refl net b.pipeline
  | cons event hs ih => exact (step_ownDeliveries net b event).trans (ih _)

theorem flush_ownDeliveries (net : Network) (b : Backlog) :
    Pipeline.OwnDeliveries net b.pipeline (b.flush net).2.1.pipeline (b.flush net).2.2 :=
  (Pipeline.pushAll_ownDeliveries net b.pipeline b.queue).trans (Pipeline.flush_ownDeliveries net _)

end Backlog

/-- Every batch that is cut out of these spans is delivered as it is. -/
def Exporter.DeliversAll (net : Network) (e : Exporter) (spans : List Span) : Prop :=
  ∀ batch, batch <:+: spans → e.Delivers net batch

namespace Pipeline

variable {net : Network} {p q q' : Pipeline} {made later : List Delivery} {spans more : List Span}

/-- From `p` on, the pipeline took in `spans` and made deliveries: what is out and what waits is
what waited before and what came in, in this order. -/
structure Conserves (p : Pipeline) (spans : List Span) (q : Pipeline) (made : List Delivery) :
    Prop where
  runs : q.closed = false
  account : made.flatMap Delivery.spans ++ q.waiting = p.waiting ++ spans

theorem Conserves.refl (h : p.closed = false) : Conserves p [] p [] :=
  ⟨h, by simp⟩

theorem Conserves.trans (h : Conserves p spans q made) (k : Conserves q more q' later) :
    Conserves p (spans ++ more) q' (made ++ later) where
  runs := k.runs
  account := by
    rw [List.flatMap_append, List.append_assoc, k.account, ← List.append_assoc, h.account,
      List.append_assoc]

theorem exportAll_conserves (h : p.exporter.Delivers net p.waiting) :
    Conserves p [] (p.exportAll net).2 [(p.exportAll net).1] ∧
      (p.exportAll net).1.result = .ok () ∧ (p.exportAll net).2.waiting = [] := by
  have hspans : (p.exportAll net).1.spans = p.waiting := h.spans
  refine ⟨⟨h.runs, ?_⟩, h.result, rfl⟩
  rw [List.flatMap_singleton, hspans, List.append_nil]
  exact List.append_nil _

theorem push_conserves (s : Span) (hp : p.closed = false)
    (h : p.exporter.Delivers net (p.waiting ++ [s])) :
    Conserves p [s] (p.push net s).1 (p.push net s).2 := by
  have htaken : Conserves p [s] { p with waiting := p.waiting ++ [s] } [] := ⟨hp, by simp⟩
  rw [push, if_neg (by simp [hp])]
  dsimp only
  split
  · exact htaken.trans (exportAll_conserves h).1
  · exact htaken

theorem Conserves.deliversAll (h : Conserves p spans q made) (hq : q.exporter = p.exporter)
    (hd : p.exporter.DeliversAll net (p.waiting ++ (spans ++ more))) :
    q.exporter.DeliversAll net (q.waiting ++ more) := by
  intro batch hbatch
  rw [hq]
  refine hd batch (hbatch.trans ?_)
  rw [← List.append_assoc, ← h.account, List.append_assoc]
  exact (List.suffix_append _ _).isInfix

theorem pushAll_conserves (hp : p.closed = false)
    (hd : p.exporter.DeliversAll net (p.waiting ++ spans)) :
    Conserves p spans (p.pushAll net spans).1 (p.pushAll net spans).2 := by
  induction spans generalizing p with
  | nil => exact .refl hp
  | cons s spans ih =>
    have hbatch : p.waiting ++ [s] <:+: p.waiting ++ s :: spans := ⟨[], spans, by simp⟩
    have hfirst := push_conserves s hp (hd _ hbatch)
    exact hfirst.trans
      (ih hfirst.runs (hfirst.deliversAll (push_ownDeliveries net p s).exporter hd))

theorem flush_conserves (hp : p.closed = false) (h : p.exporter.Delivers net p.waiting) :
    Conserves p [] (p.flush net).2.1 (p.flush net).2.2 ∧ (p.flush net).1 = .ok () ∧
      (p.flush net).2.1.waiting = [] := by
  rw [flush, if_neg (by simp [hp])]
  split
  · rename_i hw
    exact ⟨.refl hp, rfl, List.isEmpty_iff.mp hw⟩
  · exact exportAll_conserves h

end Pipeline

namespace Backlog

variable {net : Network} {b : Backlog} {event : QueueEvent} {hs : List QueueEvent}

/-- What is out, waits or is queued is what was on its way before and what has ended since. -/
structure Conserves (b : Backlog) (spans : List Span) (c : Backlog) (made : List Delivery) :
    Prop where
  runs : c.pipeline.closed = false
  account : made.flatMap Delivery.spans ++ c.pending = b.pending ++ spans
  room : c.queue.length ≤ b.queue.length + spans.length

theorem step_conserves (hb : b.pipeline.closed = false)
    (hroom : b.queue.length + (QueueEvent.spans [event]).length ≤ capacity)
    (hd : b.pipeline.exporter.DeliversAll net (b.pending ++ QueueEvent.spans [event])) :
    Conserves b (QueueEvent.spans [event]) (b.step net event).1 (b.step net event).2 := by
  cases event with
  | ended s =>
    have hlt : b.queue.length < capacity := hroom
    rw [step, if_pos hlt]
    exact ⟨hb, by simp [pending, QueueEvent.spans], by simp [QueueEvent.spans]⟩
  | taken =>
    cases hq : b.queue with
    | nil =>
      rw [step, hq]
      exact ⟨hb, by simp [QueueEvent.spans], Nat.le_add_right _ _⟩
    | cons s rest =>
      have hbatch : b.pipeline.waiting ++ [s] <:+: b.pending ++ QueueEvent.spans [.taken] :=
        ⟨[], rest, by simp [pending, hq, QueueEvent.spans]⟩
      have hconserves := Pipeline.push_conserves s hb (hd _ hbatch)
      rw [step, hq]
      refine ⟨hconserves.runs, ?_, ?_⟩
      · rw [pending, ← List.append_assoc, hconserves.account, pending, hq]
        simp [QueueEvent.spans]
      · rw [hq]
        simp [QueueEvent.spans]
  | due =>
    have hbatch : b.pipeline.waiting <:+: b.pending ++ QueueEvent.spans [.due] :=
      ((List.prefix_append _ b.queue).trans (List.prefix_append _ _)).isInfix
    obtain ⟨hconserves, -, -⟩ := Pipeline.flush_conserves hb (hd _ hbatch)
    refine ⟨hconserves.runs, ?_, Nat.le_add_right _ _⟩
    rw [pending, step, ← List.append_assoc, hconserves.account, pending]
    simp [QueueEvent.spans]

/-- No pace of the worker loses, doubles or moves a span. -/
theorem run_conserves (hb : b.pipeline.closed = false)
    (hroom : b.queue.length + (QueueEvent.spans hs).length ≤ capacity)
    (hd : b.pipeline.exporter.DeliversAll net (b.pending ++ QueueEvent.spans hs)) :
    Conserves b (QueueEvent.spans hs) (b.run net hs).1 (b.run net hs).2 := by
  induction hs generalizing b with
  | nil => exact ⟨hb, by simp [run, QueueEvent.spans], Nat.le_add_right _ _⟩
  | cons event hs ih =>
    have hspans : QueueEvent.spans (event :: hs) =
        QueueEvent.spans [event] ++ QueueEvent.spans hs := by
      cases event <;> rfl
    rw [hspans, List.length_append] at hroom
    rw [hspans, ← List.append_assoc] at hd
    have hfirst := step_conserves hb (by omega)
      fun batch hbatch => hd batch (hbatch.trans (List.prefix_append _ _).isInfix)
    have hroom' := hfirst.room
    have hlater := ih hfirst.runs (by omega) fun batch hbatch => by
      rw [(step_ownDeliveries net b event).exporter]
      refine hd batch (hbatch.trans ?_)
      rw [← hfirst.account, List.append_assoc]
      exact (List.suffix_append _ _).isInfix
    rw [run, hspans]
    dsimp only
    refine ⟨hlater.runs, ?_, ?_⟩
    · rw [List.flatMap_append, List.append_assoc, hlater.account, ← List.append_assoc,
        hfirst.account, List.append_assoc]
    · have := hlater.room
      rw [List.length_append]
      omega

theorem flush_conserves (hb : b.pipeline.closed = false)
    (hd : b.pipeline.exporter.DeliversAll net b.pending) :
    (b.flush net).1 = .ok () ∧ (b.flush net).2.2.flatMap Delivery.spans = b.pending := by
  have hpush := Pipeline.pushAll_conserves hb hd
  have hrest : (b.pipeline.pushAll net b.queue).1.exporter.DeliversAll net
      ((b.pipeline.pushAll net b.queue).1.waiting ++ []) :=
    hpush.deliversAll (Pipeline.pushAll_ownDeliveries net b.pipeline b.queue).exporter
      (by rwa [List.append_nil])
  obtain ⟨hflush, hresult, hwaiting⟩ :=
    Pipeline.flush_conserves hpush.runs (hrest _ (List.prefix_append _ _).isInfix)
  refine ⟨hresult, ?_⟩
  have haccount := (hpush.trans hflush).account
  rwa [hwaiting, List.append_nil, List.append_nil] at haccount

/-- From an empty pipeline: once a flush has followed, at whatever pace the worker went before, all
that has ended was delivered under the pipeline's resource, each span once and in its place. -/
theorem run_flush {p : Pipeline} (hp : p.closed = false) (hwaiting : p.waiting = [])
    (hroom : (QueueEvent.spans hs).length ≤ capacity)
    (hd : p.exporter.DeliversAll net (QueueEvent.spans hs)) :
    ((run net { pipeline := p } hs).1.flush net).1 = .ok () ∧
      ((run net { pipeline := p } hs).2 ++
        ((run net { pipeline := p } hs).1.flush net).2.2).flatMap Delivery.labelled =
        (QueueEvent.spans hs).map fun s => (p.resource, s) := by
  have hpending : pending { pipeline := p } = [] := by simp [pending, hwaiting]
  have hrun : Conserves { pipeline := p } (QueueEvent.spans hs) (run net { pipeline := p } hs).1
      (run net { pipeline := p } hs).2 :=
    run_conserves hp (by simpa using hroom) (by rwa [hpending])
  have hown := run_ownDeliveries net { pipeline := p } hs
  have haccount := hrun.account
  rw [hpending, List.nil_append] at haccount
  have hrest : (run net { pipeline := p } hs).1.pipeline.exporter.DeliversAll net
      (run net { pipeline := p } hs).1.pending := by
    intro batch hbatch
    rw [hown.exporter]
    refine hd batch (hbatch.trans ?_)
    rw [← haccount]
    exact (List.suffix_append _ _).isInfix
  obtain ⟨hresult, hlate⟩ := flush_conserves hrun.runs hrest
  refine ⟨hresult, ?_⟩
  rw [(hown.trans (flush_ownDeliveries net _)).labelled, List.flatMap_append, hlate, haccount]

/-- The worker takes every span as soon as it has ended. -/
def prompt (spans : List Span) : List QueueEvent :=
  spans.flatMap fun s => [.ended s, .taken]

theorem spans_prompt (spans : List Span) : QueueEvent.spans (prompt spans) = spans := by
  induction spans with
  | nil => rfl
  | cons s spans ih => exact congrArg (s :: ·) ih

theorem run_prompt (net : Network) (p : Pipeline) (spans : List Span) :
    run net { pipeline := p } (prompt spans) =
      ({ pipeline := (p.pushAll net spans).1 }, (p.pushAll net spans).2) := by
  induction spans generalizing p with
  | nil => rfl
  | cons s spans ih =>
    have hprompt : prompt (s :: spans) = .ended s :: .taken :: prompt spans := rfl
    have hempty : ([] : List Span).length < capacity := by decide
    rw [hprompt]
    simp only [run, step, if_pos hempty, List.nil_append, ih]
    rfl

end Backlog

end TracedService
