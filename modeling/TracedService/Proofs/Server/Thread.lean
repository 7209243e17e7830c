import TracedService.Proofs.Server.Serving

/-! Serving as a thread does it. Contexts are attached to the thread and detached from it, and
whoever asks for the current context is given the one that was attached last. A journal keeps every
start and every end of a span, sampled or not. Main statement: this is serving with the context
handed along, and the thread is left with the contexts it had. -/

namespace TracedService.Server

/-- The start or the end of a span; `scope` names the tracer. -/
inductive Mark where
  | started (scope : String) (a : ActiveSpan)
  | ended (scope : String) (a : ActiveSpan)
  deriving DecidableEq, Repr

/-- The contexts of a thread, the latest in front, what it has recorded, and its journal. -/
structure Thread where
  attached : List Context := []
  recorder : Recorder := {}
  journal : List Mark := []

namespace Thread

def current (w : Thread) : Context :=
  w.attached.head?.getD {}

def attach (w : Thread) (c : Context) : Thread :=
  { w with attached := c :: w.attached }

def detach (w : Thread) : Thread :=
  { w with attached := w.attached.tail }

def start (t : Tracing) (w : Thread) (request : SpanRequest) (parent : Context) :
    ActiveSpan × Thread :=
  let (a, r) := w.recorder.start t request parent
  (a, { w with recorder := r, journal := w.journal ++ [.started request.scope a] })

def update (w : Thread) (a : ActiveSpan) (f : Span → Span) : Thread :=
  { w with recorder := w.recorder.update a f }

def finish (w : Thread) (scope : String) (a : ActiveSpan) : Thread :=
  { w with recorder := w.recorder.finish a, journal := w.journal ++ [.ended scope a] }

def arrival (w : Thread) (i : Arrival) : Arrival :=
  { i with current := w.current }

end Thread

/-- A service on a thread. -/
abbrev Work := Arrival → Thread → Http.Response × Thread

namespace Handler

def childWork (t : Tracing) (w : Thread) (name : String) : Thread :=
  let (a, w) := w.start t ⟨scope, name, .internal, []⟩ w.current
  w.finish scope a

def work (t : Tracing) (h : Handler) : Work := fun i w =>
  (h.reply (w.arrival i), h.children.foldl (childWork t) w)

end Handler

namespace Layer

/-- The context of the server span is attached while the request is served, and no longer. -/
def traceWork (t : Tracing) (inner : Work) : Work := fun i w =>
  let parent := Hop.extract w.current i.request.headers
  let (span, w) := w.start t (spanRequest i) parent
  let context := parent.withSpan span
  let (response, w) := inner { i with left := some context } (w.attach context)
  (response, (w.detach.update span (recordStatus response.status)).finish scope span)

def putUrl (i : Arrival) (w : Thread) : Thread :=
  let url := (urlKey, AttributeValue.text (String.ofList i.request.uri.text))
  match (nearest (w.arrival i)).active with
  | some a => if a.context.valid then w.update a (Span.addAttribute url) else w
  | none => w

def urlWork (inner : Work) : Work := fun i w =>
  inner i (putUrl i w)

def workBelow (place : List Char) (inner : Work) : Work := fun i w =>
  inner (arrivalBelow place i) w

def applyWork (t : Tracing) : Layer → Work → Work
  | requestSpan, inner => traceWork t inner
  | fullUrl, inner => urlWork inner
  | below place, inner => workBelow place inner

end Layer

def Endpoint.work (t : Tracing) (e : Endpoint) : Work :=
  e.layers.foldl (fun inner l => l.applyWork t inner) (e.handler.work t)

def Router.serveOn (t : Tracing) (router : Router) (q : Http.Request) (w : Thread) :
    Http.Response × Thread :=
  let choice := router.choice q
  let (response, w) := choice.endpoint.work t (choice.arrival q w.current) w
  (choice.finish response, w)

/-- The work gives what the service gives in the current context, and leaves the thread with the
contexts it had. -/
structure Work.Follows (k : Work) (s : Service) (i : Arrival) (w : Thread) : Prop where
  served : ((k i w).1, (k i w).2.recorder) = s (w.arrival i) w.recorder
  attached : (k i w).2.attached = w.attached

namespace Work.Follows

variable {t : Tracing} {k : Work} {s : Service}

private theorem children (names : List String) (w : Thread) :
    (names.foldl (Handler.childWork t) w).recorder =
        names.foldl (Handler.child t w.current) w.recorder ∧
      (names.foldl (Handler.childWork t) w).attached = w.attached := by
  induction names generalizing w with
  | nil => exact ⟨rfl, rfl⟩
  | cons name names ih => exact ih (Handler.childWork t w name)

theorem handler (h : Handler) (i : Arrival) (w : Thread) :
    (h.work t).Follows (h.service t) i w where
  served := congrArg (h.reply (w.arrival i), ·) (children h.children w).1
  attached := (children h.children w).2

theorem layer (h : ∀ i w, k.Follows s i w) (l : Layer) (i : Arrival) (w : Thread) :
    (l.applyWork t k).Follows (l.apply t s) i w := by
  cases l with
  | requestSpan =>
    let parent := Hop.extract w.current i.request.headers
    let opened := w.start t (Layer.spanRequest i) parent
    let context := parent.withSpan opened.1
    obtain ⟨hserved, hattached⟩ := h { i with left := some context } (opened.2.attach context)
    refine ⟨?_, congrArg List.tail hattached⟩
    exact congrArg (fun m : Http.Response × Recorder => (m.1,
      (m.2.update opened.1 (Layer.recordStatus m.1.status)).finish opened.1)) hserved
  | fullUrl =>
    obtain ⟨hserved, hattached⟩ := h i (Layer.putUrl i w)
    have hurl : s ((Layer.putUrl i w).arrival i) (Layer.putUrl i w).recorder =
          Layer.recordUrl s (w.arrival i) w.recorder ∧
        (Layer.putUrl i w).attached = w.attached := by
      unfold Layer.putUrl Layer.recordUrl
      cases (Layer.nearest (w.arrival i)).active with
      | none => exact ⟨rfl, rfl⟩
      | some a => cases ha : a.context.valid <;> simp only [ha] <;> exact ⟨rfl, rfl⟩
    exact ⟨hserved.trans hurl.1, hattached.trans hurl.2⟩
  | below place =>
    obtain ⟨hserved, hattached⟩ := h (Layer.arrivalBelow place i) w
    exact ⟨hserved, hattached⟩

theorem layers (ls : List Layer) (h : ∀ i w, k.Follows s i w) (i : Arrival) (w : Thread) :
    Follows (ls.foldl (fun inner l => l.applyWork t inner) k)
      (ls.foldl (fun inner l => l.apply t inner) s) i w :=
  List.foldl_rel (r := fun k s => ∀ i w, Follows k s i w) h (fun l _ _ _ hk => layer hk l) i w

theorem endpoint (e : Endpoint) (i : Arrival) (w : Thread) :
    (e.work t).Follows (e.service t) i w :=
  layers e.layers (handler e.handler) i w

end Work.Follows

/-- A thread serves as the router does in the current context, and it has the same contexts
afterwards. -/
theorem Router.serveOn_eq (t : Tracing) (router : Router) (q : Http.Request) (w : Thread) :
    ((router.serveOn t q w).1, (router.serveOn t q w).2.recorder) =
        router.serve t q w.current w.recorder ∧
      (router.serveOn t q w).2.attached = w.attached := by
  obtain ⟨hserved, hattached⟩ := Work.Follows.endpoint (t := t) (router.choice q).endpoint
    ((router.choice q).arrival q w.current) w
  rw [serve_eq]
  exact ⟨congrArg (fun m : Http.Response × Recorder => ((router.choice q).finish m.1, m.2)) hserved,
    hattached⟩

end TracedService.Server
