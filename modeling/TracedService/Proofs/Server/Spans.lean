import TracedService.Proofs.Server.Continuity
import TracedService.Proofs.Server.Growth
import TracedService.Proofs.Server.Thread

/-! Server spans nest. Each of them is started and ended once while its request is served, the inner
ones end first, and the sampled ones are kept. Main statement: there are as many as tracing was
attached around the handler, and what comes later to a router stays outside. -/

namespace TracedService.Server

def Mark.scope : Mark → String
  | started scope _ => scope
  | ended scope _ => scope

/-- What comes about between two states of a thread. The spans that run are the same ones again. -/
structure Thread.GrowsTo (w w' : Thread) (marks : List Mark) (spans : List Span) : Prop where
  journal : w'.journal = w.journal ++ marks
  ended : w'.recorder.ended = w.recorder.ended ++ spans
  outline : w'.recorder.outline = w.recorder.outline

namespace Thread.GrowsTo

variable {t : Tracing} {w w' w'' : Thread} {marks marks' : List Mark} {spans spans' : List Span}

theorem refl (w : Thread) : w.GrowsTo w [] [] :=
  ⟨(List.append_nil _).symm, (List.append_nil _).symm, rfl⟩

theorem trans (h : w.GrowsTo w' marks spans) (h' : w'.GrowsTo w'' marks' spans') :
    w.GrowsTo w'' (marks ++ marks') (spans ++ spans') where
  journal := by rw [h'.journal, h.journal, List.append_assoc]
  ended := by rw [h'.ended, h.ended, List.append_assoc]
  outline := h'.outline.trans h.outline

theorem update (a : ActiveSpan) {f : Span → Span} (hf : ∀ s, (f s).head = s.head) :
    w.GrowsTo (w.update a f) [] [] :=
  ⟨(List.append_nil _).symm, (List.append_nil _).symm, Recorder.outline_update hf⟩

/-- Around what comes about in a span come its start and its end, and behind it the span itself, if
that is sampled. -/
theorem within (request : SpanRequest) (parent : Context)
    (h : (w.start t request parent).2.GrowsTo w' marks spans) :
    let a := (w.start t request parent).1
    ∃ kept, w.GrowsTo (w'.finish request.scope a)
        (.started request.scope a :: marks ++ [.ended request.scope a]) (spans ++ kept) ∧
      kept.map Span.head = if a.context.sampled then [(request.scope, request.name,
        request.kind, a.context, parent.spanContext.spanId)] else [] := by
  intro a
  have hcontext : a.context = w.recorder.nextContext t parent := Recorder.start_context ..
  obtain ⟨houtline, kept, hkept, hheads⟩ :=
    Recorder.finish_start t w.recorder request parent h.outline
  refine ⟨kept, ⟨?_, ?_, houtline⟩, ?_⟩
  · change w'.journal ++ _ = _
    rw [h.journal]
    simp [start, a]
  · change (w'.recorder.finish a).ended = _
    rw [show (w'.recorder.finish a).ended = _ from hkept, h.ended, List.append_assoc]
    exact congrArg (· ++ _) (Recorder.start_ended ..)
  · rw [hheads, hcontext, Recorder.nextContext_sampled]

end Thread.GrowsTo

/-- The journal of spans that nest, the outermost first. -/
def nested (servers : List ActiveSpan) : List Mark :=
  servers.map (.started Layer.scope) ++ servers.reverse.map (.ended Layer.scope)

theorem nested_cons (a : ActiveSpan) (servers : List ActiveSpan) :
    nested (a :: servers) = .started Layer.scope a :: nested servers ++ [.ended Layer.scope a] := by
  simp [nested]

/-- The contexts of the server spans among those that are kept. -/
def keptServers (spans : List Span) : List SpanContext :=
  (spans.filter (·.scope == Layer.scope)).map (·.context)

theorem keptServers_eq (spans : List Span) : keptServers spans =
    ((spans.map Span.head).filter (·.1 == Layer.scope)).map (·.2.2.2.1) := by
  rw [List.filter_map, List.map_map]
  rfl

theorem keptServers_append (spans spans' : List Span) :
    keptServers (spans ++ spans') = keptServers spans ++ keptServers spans' := by
  rw [keptServers, List.filter_append, List.map_append]
  rfl

/-- Server spans come about, the outermost first. They nest, and the sampled ones are kept. -/
structure Thread.Spanned (t : Tracing) (w w' : Thread) (servers : List ActiveSpan) : Prop where
  numbers : servers.map (·.context.spanId) =
    (List.range' w.recorder.spans servers.length).map t.ids.span
  nest : ∃ marks spans, w.GrowsTo w' marks spans ∧
    marks.filter (·.scope == Layer.scope) = nested servers ∧
    keptServers spans = (servers.reverse.map (·.context)).filter (·.sampled)

variable {t : Tracing}

theorem Thread.Spanned.trans {w w' w'' : Thread} (h : w.Spanned t w' [])
    (h' : w'.Spanned t w'' []) : w.Spanned t w'' [] := by
  obtain ⟨-, marks, spans, hgrows, hmarks, hspans⟩ := h
  obtain ⟨-, marks', spans', hgrows', hmarks', hspans'⟩ := h'
  refine ⟨rfl, _, _, hgrows.trans hgrows', ?_, ?_⟩
  · rw [List.filter_append, hmarks, hmarks']
    rfl
  · rw [keptServers_append, hspans, hspans']
    rfl

theorem Thread.Spanned.after {w w' w'' : Thread} {servers : List ActiveSpan}
    (h : w.GrowsTo w' [] []) (hcount : w'.recorder.spans = w.recorder.spans)
    (h' : w'.Spanned t w'' servers) : w.Spanned t w'' servers := by
  obtain ⟨hnumbers, marks, spans, hgrows, hmarks, hspans⟩ := h'
  exact ⟨hcount ▸ hnumbers, marks, spans, h.trans hgrows, hmarks, hspans⟩

/-- The work starts that many server spans, whatever the request and the thread. -/
def Work.Spans (t : Tracing) (k : Work) (n : Nat) : Prop :=
  ∀ (i : Arrival) (w : Thread), ∃ servers : List ActiveSpan, servers.length = n ∧
    w.Spanned t (k i w).2 servers

theorem Handler.child_spanned (w : Thread) (name : String) :
    w.Spanned t (childWork t w name) [] := by
  obtain ⟨kept, hgrows, hheads⟩ := (Thread.GrowsTo.refl _).within (t := t) (w := w)
    ⟨scope, name, .internal, []⟩ w.current
  have hforeign : (scope == Layer.scope) = false := by decide
  refine ⟨rfl, _, _, hgrows, ?_, ?_⟩
  · simp [Mark.scope, hforeign, nested]
  · rw [List.nil_append, keptServers_eq, hheads]
    split
    · simp [hforeign]
    · rfl

theorem Handler.spans (h : Handler) : (h.work t).Spans t 0 := by
  intro i w
  refine ⟨[], rfl, ?_⟩
  change w.Spanned t (h.children.foldl (childWork t) w) []
  induction h.children generalizing w with
  | nil => exact ⟨rfl, [], [], .refl w, rfl, rfl⟩
  | cons name names ih => exact (child_spanned w name).trans (ih (childWork t w name))

variable {k : Work} {n : Nat}

/-- Tracing puts one server span around those that come about within. -/
theorem Layer.traceWork_spans (h : k.Spans t n) : (traceWork t k).Spans t (n + 1) := by
  intro i w
  let parent := Hop.extract w.current i.request.headers
  let opened := w.start t (spanRequest i) parent
  let a := opened.1
  let context := parent.withSpan a
  let served := k { i with left := some context } (opened.2.attach context)
  obtain ⟨servers, hlength, hnumbers, marks, spans, hgrows, hmarks, hspans⟩ :=
    h { i with left := some context } (opened.2.attach context)
  have hclosing : opened.2.GrowsTo (served.2.detach.update a (recordStatus served.1.status))
      marks spans :=
    ⟨hgrows.journal, hgrows.ended,
      (Recorder.outline_update (head_recordStatus served.1.status)).trans hgrows.outline⟩
  obtain ⟨kept, hwithin, hheads⟩ := hclosing.within (spanRequest i) parent
  have hheads : kept.map Span.head = if a.context.sampled = true then
      [(scope, spanName i, .server, a.context, parent.spanContext.spanId)] else [] := hheads
  have hid : a.context.spanId = t.ids.span w.recorder.spans :=
    (congrArg _ (Recorder.start_context ..)).trans (Recorder.nextContext_spanId ..)
  have hspansNext : (opened.2.attach context).recorder.spans = w.recorder.spans + 1 :=
    Recorder.start_spans ..
  refine ⟨a :: servers, congrArg (· + 1) hlength, ?_, _, _, hwithin, ?_, ?_⟩
  · rw [List.map_cons, List.length_cons, List.range'_succ, List.map_cons, hid, hnumbers, hspansNext]
  · rw [nested_cons, ← hmarks]
    simp [Mark.scope, spanRequest, a, opened]
  · rw [keptServers_append, hspans, keptServers_eq, hheads, List.reverse_cons, List.map_append,
      List.filter_append]
    cases hs : a.context.sampled <;> simp [hs]

theorem Layer.urlWork_spans (h : k.Spans t n) : (urlWork k).Spans t n := by
  intro i w
  obtain ⟨servers, hlength, hspanned⟩ := h i (putUrl i w)
  have hput : w.GrowsTo (putUrl i w) [] [] ∧ (putUrl i w).recorder.spans = w.recorder.spans := by
    unfold putUrl
    split
    · split
      · exact ⟨.update _ (Span.head_addAttribute _), rfl⟩
      · exact ⟨.refl w, rfl⟩
    · exact ⟨.refl w, rfl⟩
  exact ⟨servers, hlength, hspanned.after hput.1 hput.2⟩

def Endpoint.spans (e : Endpoint) : Nat :=
  e.layers.count .requestSpan

theorem Layer.applyWork_spans (l : Layer) (h : k.Spans t n) :
    (l.applyWork t k).Spans t (n + [l].count .requestSpan) := by
  cases l with
  | requestSpan => exact traceWork_spans h
  | fullUrl => exact urlWork_spans h
  | below place => exact fun i w => h (arrivalBelow place i) w

theorem Endpoint.work_spans (e : Endpoint) : (e.work t).Spans t e.spans := by
  have hlayers (ls : List Layer) {k : Work} {n : Nat} (h : k.Spans t n) :
      Work.Spans t (ls.foldl (fun inner l => l.applyWork t inner) k)
        (n + ls.count .requestSpan) := by
    induction ls generalizing k n with
    | nil => exact h
    | cons l ls ih =>
      rw [← List.singleton_append, List.count_append, ← Nat.add_assoc]
      exact ih (l.applyWork_spans h)
  have := hlayers e.layers e.handler.spans
  rwa [Nat.zero_add] at this

/-- The request is served in that many server spans. -/
structure Router.ServedIn (t : Tracing) (router : Router) (q : Http.Request) (w : Thread)
    (n : Nat) : Prop where
  served : ((router.serveOn t q w).1, (router.serveOn t q w).2.recorder) =
    router.serve t q w.current w.recorder
  spanned : ∃ servers : List ActiveSpan, servers.length = n ∧
    w.Spanned t (router.serveOn t q w).2 servers

theorem Router.servedIn (t : Tracing) (router : Router) (q : Http.Request) (w : Thread) :
    router.ServedIn t q w (router.choice q).endpoint.spans where
  served := (serveOn_eq t router q w).1
  spanned := (router.choice q).endpoint.work_spans ((router.choice q).arrival q w.current) w

namespace Attachment

/-- It opens a server span around every request. -/
def traces : Attachment → Bool
  | tracing => true
  | url => false
  | guard g => g.active && g.provider.isSome

theorem count_layers (stack : List Attachment) :
    (stack.flatMap layers).count .requestSpan = stack.countP traces := by
  induction stack with
  | nil => rfl
  | cons a stack ih =>
    have ha : a.layers.count .requestSpan = if a.traces then 1 else 0 := by
      cases a with
      | tracing => rfl
      | url => rfl
      | guard g =>
        by_cases hg : (g.active && g.provider.isSome) = true
        · rw [layers, if_pos hg, show (guard g).traces = true from hg]
          rfl
        · rw [layers, if_neg hg, show (guard g).traces = false from Bool.eq_false_iff.mpr hg]
          rfl
    rw [List.flatMap_cons, List.count_append, List.countP_cons, ha, ih, Nat.add_comm]

theorem every_attach {router : Router} (bare : router.Every fun e => e.spans = 0)
    (stack : List Attachment) :
    (attach router stack).Every fun e => e.spans = stack.countP traces := by
  rw [attach_eq, Router.every_addLayers]
  refine Router.Every.imp bare fun e he => ?_
  rw [Endpoint.spans, List.count_append, count_layers]
  exact (congrArg (· + _) he).trans (Nat.zero_add _)

end Attachment

/-- On a router of endpoints without tracing, a stack of attachments puts every request that an
endpoint from before or the fallback serves into as many server spans as it has tracing in it. What
is served under a path that is only added later is in none. -/
theorem attach_spans (t : Tracing) {router whole : Router} {stack : List Attachment}
    {later : List Addition} (bare : router.Every fun e => e.spans = 0)
    (laterBare : ∀ o ∈ later.flatMap Addition.offers, o.2.Every fun e => e.spans = 0)
    (made : (Attachment.attach router stack).extend later = .ok whole) (q : Http.Request)
    (w : Thread) :
    let k := stack.countP Attachment.traces
    ((whole.choice q).endpoint ∈ (Attachment.attach router stack).endpoints →
      whole.ServedIn t q w k) ∧
    (whole.route? q.uri.path = none → (∀ a ∈ later, a.isFallback = false) →
      whole.ServedIn t q w k) ∧
    ∀ route, whole.route? q.uri.path = some route →
      (route.path ∉ (later.flatMap Addition.offers).map Prod.fst → whole.ServedIn t q w k) ∧
      (route.path ∉ router.routes.map Route.path → whole.ServedIn t q w 0) := by
  intro k
  have hattached := Attachment.every_attach bare stack
  have hserved (n : Nat) (hn : (whole.choice q).endpoint.spans = n) : whole.ServedIn t q w n :=
    hn ▸ Router.servedIn t whole q w
  refine ⟨?_, ?_, ?_⟩
  · intro hmem
    exact hserved k (Router.every_iff.mp hattached _ hmem)
  · intro hroute hnone
    refine hserved k ?_
    rw [Router.choice, hroute, Router.fallback_of_extend hnone made]
    exact hattached.2
  · intro route hroute
    have hmem := Router.mem_of_route? hroute
    have hchoice : (whole.choice q).endpoint = (route.methods.choice q.method).1 := by
      rw [Router.choice, hroute]
    refine ⟨?_, ?_⟩
    · intro hpath
      have hold := Router.mem_of_extend made route hmem hpath
      exact hserved k (hchoice ▸ Methods.every_choice (hattached.1 route hold) q.method)
    · intro hpath
      have hpaths : (Attachment.attach router stack).routes.map Route.path =
          router.routes.map Route.path := by
        rw [Attachment.attach_eq, Router.addLayers_paths]
      have hnew := Router.every_of_extend laterBare made route hmem (hpaths ▸ hpath)
      exact hserved 0 (hchoice ▸ Methods.every_choice hnew q.method)

/-- Tracing is attached twice, with an inactive guard and a layer for URLs between; then a path is
added. -/
theorem attach_spans_late :
    let t : Tracing := ⟨.alwaysOn, fun n => n + 1, fun n => n + 1⟩
    let router : Router := { routes := [⟨"/orders", "/orders".toList.map .literal,
      .one "GET" { children := ["query"], reply := fun _ => ⟨500, [], none⟩ }⟩] }
    let stack : List Attachment := [.tracing, .guard .inactive, .url, .tracing]
    ∃ whole, (Attachment.attach router stack).extend
        [.offer "/late" (.one "GET" Handler.notFound)] = .ok whole ∧
      whole.ServedIn t ⟨"GET", .origin ⟨"/orders".toList, none⟩, {}, []⟩ {} 2 ∧
      whole.ServedIn t ⟨"POST", .origin ⟨"/missing".toList, none⟩, {}, []⟩ {} 2 ∧
      whole.ServedIn t ⟨"GET", .origin ⟨"/late".toList, none⟩, {}, []⟩ {} 0 := by
  intro t router stack
  have hbare : router.Every fun e => e.spans = 0 := by
    simp [router, Router.Every, Methods.Every, Methods.one, Endpoint.spans]
  have hlate : ∀ o ∈ [Addition.offer "/late" (.one "GET" Handler.notFound)].flatMap
      Addition.offers, o.2.Every fun e => e.spans = 0 := by
    simp [Addition.offers, Methods.Every, Methods.one, Endpoint.spans]
  obtain ⟨whole, hmade, ⟨orders, horders, hordersPath⟩, hmissing, ⟨late, hlateRoute, hlatePath⟩⟩ :
      ∃ whole, (Attachment.attach router stack).extend
          [.offer "/late" (.one "GET" Handler.notFound)] = .ok whole ∧
        (∃ route, whole.route? "/orders".toList = some route ∧ route.path = "/orders") ∧
        whole.route? "/missing".toList = none ∧
        ∃ route, whole.route? "/late".toList = some route ∧ route.path = "/late" :=
    ⟨_, rfl, ⟨_, rfl, rfl⟩, rfl, ⟨_, rfl, rfl⟩⟩
  have hspans := attach_spans t hbare hlate hmade
  refine ⟨whole, hmade, ?_, ?_, ?_⟩
  · exact ((hspans ⟨"GET", .origin ⟨"/orders".toList, none⟩, {}, []⟩ {}).2.2 orders horders).1
      (by simp [hordersPath, Addition.offers])
  · exact (hspans ⟨"POST", .origin ⟨"/missing".toList, none⟩, {}, []⟩ {}).2.1 hmissing
      (by simp [Addition.isFallback])
  · exact ((hspans ⟨"GET", .origin ⟨"/late".toList, none⟩, {}, []⟩ {}).2.2 late hlateRoute).2
      (by simp [hlatePath, router])

end TracedService.Server
