import TracedService.Proofs.Server.Thread
import TracedService.Proofs.Trace.Relocation

/-! Requests served in turn on one thread. Main statement: what comes of a request is what would
come of it on a new thread with the ids that are left, whatever was served before; and the thread
has the contexts it had. -/

namespace TracedService.Server

def Arrival.shift (n : Nat) (i : Arrival) : Arrival :=
  { i with
    current := i.current.shift n
    left := i.left.map (·.shift n) }

/-- The number of a span among those that are recorded is nothing that a reply can show. -/
def Handler.Blind (h : Handler) : Prop :=
  ∀ (n : Nat) (i : Arrival), h.reply (i.shift n) = h.reply i

def Mark.shift (n : Nat) : Mark → Mark
  | started scope a => .started scope (a.shift n)
  | ended scope a => .ended scope (a.shift n)

namespace Thread

variable (t : Tracing) (b w : Thread)

def on : Thread where
  attached := w.attached.map (·.shift b.recorder.spans)
  recorder := b.recorder.on w.recorder
  journal := b.journal ++ w.journal.map (·.shift b.recorder.spans)

theorem current_on : (b.on w).current = w.current.shift b.recorder.spans := by
  unfold current on
  cases w.attached <;> rfl

theorem arrival_on (i : Arrival) :
    (b.on w).arrival (i.shift b.recorder.spans) = (w.arrival i).shift b.recorder.spans := by
  unfold arrival
  rw [current_on]
  rfl

theorem attach_on (c : Context) :
    (b.on w).attach (c.shift b.recorder.spans) = b.on (w.attach c) := rfl

theorem detach_on : (b.on w).detach = b.on w.detach := by
  unfold detach on
  rw [List.map_tail]

theorem start_on (request : SpanRequest) (parent : Context) :
    (b.on w).start t request (parent.shift b.recorder.spans) =
      ((w.start (b.recorder.rest t) request parent).1.shift b.recorder.spans,
        b.on (w.start (b.recorder.rest t) request parent).2) := by
  simp only [start, on, Recorder.start_on, List.map_append, List.append_assoc]
  rfl

theorem update_on (a : ActiveSpan) (f : Span → Span) :
    (b.on w).update (a.shift b.recorder.spans) f = b.on (w.update a f) := by
  simp only [update, on, Recorder.update_on]

theorem finish_on (scope : String) (a : ActiveSpan) :
    (b.on w).finish scope (a.shift b.recorder.spans) = b.on (w.finish scope a) := by
  simp only [finish, on, Recorder.finish_on, List.map_append, List.append_assoc]
  rfl

end Thread

theorem Layer.putUrl_on (b w : Thread) (i : Arrival) :
    putUrl (i.shift b.recorder.spans) (b.on w) = b.on (putUrl i w) := by
  have hnearest (i : Arrival) (n : Nat) : nearest (i.shift n) = (nearest i).shift n := by
    unfold nearest Arrival.shift
    cases i.left <;> rfl
  unfold putUrl
  rw [Thread.arrival_on, hnearest]
  unfold Context.shift
  cases (nearest (w.arrival i)).active with
  | none => rfl
  | some a =>
    simp only [Option.map_some, Thread.update_on]
    cases ha : a.context.valid <;> simp [ActiveSpan.shift, ha, Arrival.shift]

/-- The work `k` does after `b` what `k'` does on a new thread. -/
def Work.Relocates (b : Thread) (k k' : Work) : Prop :=
  ∀ (i : Arrival) (w : Thread),
    k (i.shift b.recorder.spans) (b.on w) = ((k' i w).1, b.on (k' i w).2)

namespace Work.Relocates

variable {t : Tracing} {b : Thread} {k k' : Work}

theorem handler {h : Handler} (hh : h.Blind) :
    Relocates b (h.work t) (h.work (b.recorder.rest t)) := by
  intro i w
  have hchild (w : Thread) (name : String) : Handler.childWork t (b.on w) name =
      b.on (Handler.childWork (b.recorder.rest t) w name) := by
    simp only [Handler.childWork, Thread.current_on, Thread.start_on, Thread.finish_on]
  simp only [Handler.work, Thread.arrival_on, List.foldl_hom b.on hchild]
  exact congrArg (·, _) (hh _ _)

theorem layer (h : Relocates b k k') (l : Layer) :
    Relocates b (l.applyWork t k) (l.applyWork (b.recorder.rest t) k') := by
  intro i w
  cases l with
  | requestSpan =>
    let parent := Hop.extract w.current i.request.headers
    let opened := w.start (b.recorder.rest t) (Layer.spanRequest i) parent
    let context := parent.withSpan opened.1
    let served := k' { i with left := some context } (opened.2.attach context)
    have hextract : Hop.extract (b.on w).current (i.shift b.recorder.spans).request.headers =
        parent.shift b.recorder.spans := by
      rw [Thread.current_on, Context.shift_extract]
      rfl
    have hopened : (b.on w).start t (Layer.spanRequest (i.shift b.recorder.spans))
        (parent.shift b.recorder.spans) = (opened.1.shift b.recorder.spans, b.on opened.2) :=
      Thread.start_on ..
    have hserved : k { i.shift b.recorder.spans with left := some (context.shift b.recorder.spans) }
        (b.on (opened.2.attach context)) = (served.1, b.on served.2) :=
      h { i with left := some context } (opened.2.attach context)
    have hcontext : (parent.shift b.recorder.spans).withSpan (opened.1.shift b.recorder.spans) =
        context.shift b.recorder.spans := rfl
    simp only [Layer.applyWork, Layer.traceWork, hextract, hopened, hcontext, Thread.attach_on,
      hserved, Thread.detach_on, Thread.update_on, Thread.finish_on]
    rfl
  | fullUrl =>
    change k (i.shift b.recorder.spans) (Layer.putUrl (i.shift b.recorder.spans) (b.on w)) = _
    rw [Layer.putUrl_on]
    exact h i (Layer.putUrl i w)
  | below place => exact h (Layer.arrivalBelow place i) w

theorem endpoint {e : Endpoint} (he : e.handler.Blind) :
    Relocates b (e.work t) (e.work (b.recorder.rest t)) :=
  List.foldl_rel (r := Relocates b) (handler he) fun l _ _ _ h => layer h l

end Work.Relocates

theorem Router.serveOn_on (t : Tracing) {router : Router}
    (h : router.Every fun e => e.handler.Blind) (q : Http.Request) (b w : Thread) :
    router.serveOn t q (b.on w) =
      ((router.serveOn (b.recorder.rest t) q w).1,
        b.on (router.serveOn (b.recorder.rest t) q w).2) := by
  have hserved : (router.choice q).endpoint.work t
      ((router.choice q).arrival q (w.current.shift b.recorder.spans)) (b.on w) = _ :=
    Work.Relocates.endpoint (Router.every_choice h q) ((router.choice q).arrival q w.current) w
  simp only [serveOn, Thread.current_on, hserved]

/-- What surrounds a request: a context from elsewhere, and maybe a span that is started in it
before the request and ended after it. -/
structure Ambient where
  context : Context := {}
  outside : context.Outside := by exact Context.Outside.default
  span : Option SpanRequest := none

structure Visit where
  request : Http.Request
  /-- Without it, the request is served in the current context of the thread. -/
  ambient : Option Ambient := none

/-- Serves the request of a visit in its ambient. -/
def Visit.pass (t : Tracing) (router : Router) (v : Visit) (w : Thread) : Http.Response × Thread :=
  match v.ambient with
  | none => router.serveOn t v.request w
  | some ambient =>
    match ambient.span with
    | none =>
      let (response, w) := router.serveOn t v.request (w.attach ambient.context)
      (response, w.detach)
    | some request =>
      let (a, w) := w.start t request ambient.context
      let (response, w) := router.serveOn t v.request (w.attach (ambient.context.withSpan a))
      (response, w.detach.finish request.scope a)

/-- A visit with the context handed along. -/
def Visit.serve (t : Tracing) (router : Router) (v : Visit) (current : Context) (r : Recorder) :
    Http.Response × Recorder :=
  match v.ambient with
  | none => router.serve t v.request current r
  | some ambient =>
    match ambient.span with
    | none => router.serve t v.request ambient.context r
    | some request =>
      let (a, r) := r.start t request ambient.context
      let (response, r) := router.serve t v.request (ambient.context.withSpan a) r
      (response, r.finish a)

/-- The start or the end without the number of the span. -/
def Mark.unnumbered : Mark → Mark
  | started scope a => .started scope ⟨a.context, none⟩
  | ended scope a => .ended scope ⟨a.context, none⟩

/-- What comes of a visit: the response, the spans that are kept, and every start and end. -/
structure Outcome where
  response : Http.Response
  spans : List Span
  marks : List Mark

def Visit.outcome (t : Tracing) (router : Router) (v : Visit) (w : Thread) : Outcome :=
  let (response, w') := v.pass t router w
  ⟨response, w'.recorder.ended.drop w.recorder.ended.length,
    (w'.journal.drop w.journal.length).map Mark.unnumbered⟩

/-- The visit on a new thread in contexts from elsewhere. -/
def Visit.alone (policy : SamplingPolicy) (ids : IdSource) (router : Router)
    (attached : List Context) (v : Visit) : Outcome :=
  v.outcome ⟨policy, ids⟩ router { attached := attached }

/-- The thread after visits in turn. -/
def Router.visited (t : Tracing) (router : Router) (visits : List Visit) (w : Thread) : Thread :=
  visits.foldl (fun w v => (v.pass t router w).2) w

/-- What comes of visits in turn. -/
def Router.session (t : Tracing) (router : Router) : List Visit → Thread → List Outcome
  | [], _ => []
  | v :: visits, w => v.outcome t router w :: router.session t visits (v.pass t router w).2

variable {t : Tracing} {router : Router}

theorem Visit.pass_on (h : router.Every fun e => e.handler.Blind) (v : Visit) (b w : Thread) :
    v.pass t router (b.on w) = ((v.pass (b.recorder.rest t) router w).1,
      b.on (v.pass (b.recorder.rest t) router w).2) := by
  unfold pass
  cases v.ambient with
  | none => exact Router.serveOn_on t h v.request b w
  | some ambient =>
    have houtside := ambient.outside.shift b.recorder.spans
    dsimp only
    cases ambient.span with
    | none =>
      have hattach : (b.on w).attach ambient.context = b.on (w.attach ambient.context) := by
        rw [← Thread.attach_on, houtside]
      simp only [hattach, Router.serveOn_on t h, Thread.detach_on]
    | some request =>
      have hstart := Thread.start_on t b w request ambient.context
      rw [houtside] at hstart
      have hattach (a : ActiveSpan) (w : Thread) : (b.on w).attach
          (ambient.context.withSpan (a.shift b.recorder.spans)) =
            b.on (w.attach (ambient.context.withSpan a)) := by
        rw [← Thread.attach_on, Context.shift_withSpan, houtside]
      simp only [hstart, hattach, Router.serveOn_on t h, Thread.detach_on, Thread.finish_on]

theorem Visit.pass_eq (v : Visit) (w : Thread) :
    ((v.pass t router w).1, (v.pass t router w).2.recorder) =
        v.serve t router w.current w.recorder ∧
      (v.pass t router w).2.attached = w.attached := by
  unfold pass serve
  cases v.ambient with
  | none => exact Router.serveOn_eq t router v.request w
  | some ambient =>
    dsimp only
    cases ambient.span with
    | none =>
      obtain ⟨hserved, hattached⟩ :=
        Router.serveOn_eq t router v.request (w.attach ambient.context)
      exact ⟨hserved, congrArg List.tail hattached⟩
    | some request =>
      let started := w.start t request ambient.context
      obtain ⟨hserved, hattached⟩ := Router.serveOn_eq t router v.request
        (started.2.attach (ambient.context.withSpan started.1))
      exact ⟨congrArg (fun m : Http.Response × Recorder => (m.1, m.2.finish started.1)) hserved,
        congrArg List.tail hattached⟩

theorem Router.visited_attached (visits : List Visit) (w : Thread) :
    (router.visited t visits w).attached = w.attached := by
  induction visits generalizing w with
  | nil => rfl
  | cons v visits ih => exact (ih (v.pass t router w).2).trans (v.pass_eq w).2

theorem Thread.on_new {w : Thread} (h : ∀ c ∈ w.attached, c.Outside) :
    w.on { attached := w.attached } = w := by
  have hattached : w.attached.map (·.shift w.recorder.spans) = w.attached :=
    (List.map_congr_left fun c hc => (h c hc).shift _).trans (List.map_id _)
  unfold on
  rw [hattached, Recorder.on_new, List.map_nil, List.append_nil]

theorem Mark.unnumbered_shift (n : Nat) (m : Mark) : (m.shift n).unnumbered = m.unnumbered := by
  cases m <;> rfl

/-- One visit: nothing that the thread has recorded matters but how many ids are used. -/
theorem Visit.outcome_eq_alone (h : router.Every fun e => e.handler.Blind) (v : Visit) {w : Thread}
    (hw : ∀ c ∈ w.attached, c.Outside) : v.outcome t router w = v.alone t.policy
      (t.ids.drop w.recorder.traces w.recorder.spans) router w.attached := by
  have hpass := v.pass_on (t := t) h w { attached := w.attached }
  rw [Thread.on_new hw] at hpass
  unfold alone outcome
  simp only [hpass, Thread.on, Recorder.on, List.drop_left, List.map_map, List.drop_zero,
    List.length_nil]
  congr 1
  exact List.map_congr_left fun m _ => Mark.unnumbered_shift _ m

/-- Requests do not leak into each other: what comes of the visit in place `n` is what would come of
it on a new thread, at the same rate and with the ids that are left by then. Before and after it the
thread has the contexts that it had at first. -/
theorem Router.session_separate (t : Tracing) (h : router.Every fun e => e.handler.Blind)
    (visits : List Visit) {w : Thread} (hw : ∀ c ∈ w.attached, c.Outside) (n : Nat) (v : Visit)
    (hn : visits[n]? = some v) :
    let before := router.visited t (visits.take n) w
    (router.session t visits w)[n]? = some (v.alone t.policy
      (t.ids.drop before.recorder.traces before.recorder.spans) router w.attached) ∧
    before.attached = w.attached ∧ (v.pass t router before).2.attached = w.attached := by
  intro before
  have hbefore : before.attached = w.attached := visited_attached _ w
  refine ⟨?_, hbefore, (v.pass_eq before).2.trans hbefore⟩
  have hnth : (router.session t visits w)[n]? = some (v.outcome t router before) := by
    unfold before
    clear hbefore before hw
    induction visits generalizing w n with
    | nil => cases hn
    | cons first visits ih =>
      cases n with
      | zero =>
        cases hn
        rfl
      | succ n => exact ih n hn
  rw [hnth, v.outcome_eq_alone h (hbefore ▸ hw), hbefore]

/-- A request with a trace and baggage fails within an ambient span. To the next one it is as if one
trace id and three span ids were used, and nothing else. -/
theorem Router.session_separate_failed :
    let t : Tracing := ⟨.alwaysOn, fun n => n + 1, fun n => n + 1⟩
    let shown : Handler := {
      children := ["query"]
      reply := fun i => ⟨if i.current.baggage.entries.isEmpty then 200 else 500,
        Text.Utf8.encode (TraceParent.write i.current.spanContext), none⟩ }
    let router : Router := Router.instrument
      { routes := [⟨"/orders", "/orders".toList.map .literal, .one "GET" shown⟩] }
    let failed : Visit := {
      request := ⟨"GET", .origin ⟨"/orders".toList, none⟩, ⟨[("traceparent", Text.Utf8.encodeText
        "00-0af7651916cd43dd8448eb211c80319c-b7ad6b7169203331-00"),
        ("baggage", Text.Utf8.encodeText "user=alice")]⟩, []⟩
      ambient := some { span := some ⟨"ambient", "job", .internal, []⟩ } }
    let next : Visit := { request := ⟨"GET", .origin ⟨"/orders".toList, none⟩, {}, []⟩ }
    (failed.outcome t router {}).response.status = 500 ∧
      (router.session t [failed, next] {})[1]? =
        some (next.alone .alwaysOn (t.ids.drop 1 3) router []) := by
  intro t shown router failed next
  have hblind : shown.Blind := by
    intro n i
    simp only [shown, Arrival.shift, Context.shift_spanContext]
    rfl
  have hrouter : router.Every fun e => e.handler.Blind := by
    rw [show router = addLayers _ _ from rfl, every_addLayers]
    simp only [Router.Every, Methods.Every, Methods.one, List.forall_mem_singleton]
    exact ⟨⟨hblind, fun _ _ => rfl⟩, fun _ _ => rfl⟩
  have hused : (router.visited t [failed] {}).recorder.traces = 1 ∧
      (router.visited t [failed] {}).recorder.spans = 3 := by
    decide +kernel
  have hoff : ∀ c ∈ ({} : Thread).attached, c.Outside := by
    intro c hc
    cases hc
  have hnext := (session_separate t hrouter [failed, next] hoff 1 next rfl).1
  refine ⟨by decide +kernel, hnext.trans ?_⟩
  rw [show [failed, next].take 1 = [failed] from rfl, hused.1, hused.2]

end TracedService.Server
