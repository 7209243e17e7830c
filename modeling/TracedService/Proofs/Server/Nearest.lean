import TracedService.Proofs.Server.Content
import TracedService.Proofs.Trace.Attributes

/-! Where the addresses of requests are recorded, under layers of any kind and number. Layers are
read from the outermost one inwards here. Main statement: `attach_urls`, each recording layer adds
to the server span of the nearest tracing layer around it, else to the current span, and to no other
span; what does not fit into a span is left out. -/

namespace TracedService.Server

namespace Layer

/-- The addresses recorded outside of all tracing, as each layer sees them. -/
def outside : List Layer → Http.Uri → List Http.Uri
  | [], _ => []
  | requestSpan :: _, _ => []
  | fullUrl :: ls, u => u :: outside ls u
  | below place :: ls, u => outside ls (Place.uri place u)

/-- For each tracing layer the address that it sees, and the addresses recorded within it, outside
of all tracing further in. -/
def within : List Layer → Http.Uri → List (Http.Uri × List Http.Uri)
  | [], _ => []
  | requestSpan :: ls, u => (u, outside ls u) :: within ls u
  | fullUrl :: ls, u => within ls u
  | below place :: ls, u => within ls (Place.uri place u)

theorem length_outside_within (ls : List Layer) (u : Http.Uri) :
    (outside ls u ++ (within ls u).flatMap Prod.snd).length = ls.count .fullUrl := by
  induction ls generalizing u with
  | nil => rfl
  | cons l ls ih =>
    cases l with
    | requestSpan =>
      rw [List.count_cons_of_ne (by decide), ← ih u]
      rfl
    | fullUrl =>
      rw [List.count_cons_self, ← ih u]
      rfl
    | below place =>
      rw [List.count_cons_of_ne (show below place ≠ fullUrl from nofun), ← ih (Place.uri place u)]
      rfl

def urlAttribute (u : Http.Uri) : SpanAttribute :=
  (urlKey, .text (String.ofList u.text))

/-- The attributes of the server span of a tracing layer, with the addresses recorded within it if
its ids are valid. A span has room for so many attributes only. -/
def serverAttributes (i : Arrival) (trace : TraceId) (status : Nat)
    (w : (Http.Uri × List Http.Uri) × SpanId) : List SpanAttribute :=
  (openingAttributes { i with request := { i.request with uri := w.1.1 } } ++
    (if trace ≠ 0 ∧ w.2 ≠ 0 then w.1.2.map urlAttribute else []) ++
    [(statusKey, AttributeValue.integer status)]).take Span.maxAttributes

/-- The ids and the attributes of the server spans of a request, the outermost first. They are of
one trace, and `n` spans have been started before. -/
def serverSpans (t : Tracing) (ls : List Layer) (i : Arrival) (trace : TraceId) (n status : Nat) :
    List (SpanId × List SpanAttribute) :=
  ((within ls i.request.uri).zipIdx n).map fun e =>
    (t.ids.span e.2, serverAttributes i trace status (e.1, t.ids.span e.2))

/-- The service within layers. -/
def wrap (t : Tracing) (ls : List Layer) (s : Service) : Service :=
  ls.foldr (fun l inner => l.apply t inner) s

theorem applyAll_eq_wrap (t : Tracing) (ls : List Layer) (s : Service) :
    applyAll t ls s = wrap t ls.reverse s :=
  List.foldr_reverse.symm

/-- What comes of a request: `r` was recorded before it and `made` after it, within the layers. -/
structure Records (t : Tracing) (ls : List Layer) (i : Arrival) (r : Recorder)
    (made : Http.Response × Recorder) : Prop where
  /-- Of the spans that ran before, the nearest one has the addresses recorded outside, and the
  others are what they were. -/
  running : made.2.running =
    (r.addTo (nearest i) ((outside ls i.request.uri).map urlAttribute)).running
  /-- The server spans are kept in the order of their ends, the innermost first. -/
  kept : ∃ children servers, made.2.ended = r.ended ++ children ++ servers ∧
    (∀ s ∈ children, s.scope = Handler.scope ∧ s.attributes = []) ∧
    (∀ s ∈ servers, s.scope = scope) ∧
    servers.map (fun s => (s.context.spanId, s.attributes)) =
      if r.sampled t (Hop.extract i.current i.request.headers) then
        (serverSpans t ls i (r.traceId t (Hop.extract i.current i.request.headers)) r.spans
          made.1.status).reverse
      else []

variable {t : Tracing} {ls : List Layer} {s : Service} {i : Arrival} {r : Recorder}

theorem recordUrl_eq (s : Service) (i : Arrival) (r : Recorder) :
    recordUrl s i r = s i (r.addTo (nearest i) [urlAttribute i.request.uri]) := by
  unfold recordUrl Recorder.addTo
  cases (nearest i).active <;> rfl

theorem decision_inside (t : Tracing) (i : Arrival) (r r' : Recorder) :
    let inside := Hop.extract (arrivalInside t i r).current i.request.headers
    let outside := Hop.extract i.current i.request.headers
    r'.traceId t inside = r.traceId t outside ∧ r'.sampled t inside = r.sampled t outside := by
  intro inside outside
  rcases extract_active i.current i.request.headers with ⟨c, state, haccepted, hactive⟩ |
    ⟨hrefused, hactive⟩
  · rcases extract_active (arrivalInside t i r).current i.request.headers with
      ⟨c', state', haccepted', hactive'⟩ | ⟨hrefused, -⟩
    · obtain rfl : c = c' := Option.some.inj (haccepted.symm.trans haccepted')
      have hremote := remote_of_accepted haccepted
      refine ⟨by rw [Recorder.traceId, Recorder.traceId, hactive, hactive'], ?_⟩
      rw [Recorder.sampled, Recorder.sampled, hactive, hactive']
      simp only [hremote, if_true]
      exact t.policy.samples_congr _ (by rw [hactive, hactive']; rfl)
    · rw [haccepted] at hrefused
      cases hrefused
  · rcases extract_active (arrivalInside t i r).current i.request.headers with
      ⟨c', state', haccepted', -⟩ | ⟨-, hactive'⟩
    · rw [hrefused] at haccepted'
      cases haccepted'
    · rw [arrivalInside_active] at hactive'
      obtain ⟨htrace, hsampled⟩ := nextContext_of_local r' hactive' (opened_local t i r)
      rw [opened_context] at htrace hsampled
      rw [← r'.nextContext_traceId, htrace, hsampled, Recorder.nextContext_traceId,
        Recorder.nextContext_sampled]
      exact ⟨rfl, rfl⟩

theorem valid_opened (t : Tracing) (i : Arrival) (r : Recorder) :
    (opened t i r).1.context.valid = true ↔
      r.traceId t (Hop.extract i.current i.request.headers) ≠ 0 ∧ t.ids.span r.spans ≠ 0 := by
  rw [opened_context, SpanContext.valid, Bool.and_eq_true, bne_iff_ne, bne_iff_ne,
    Recorder.nextContext_traceId, Recorder.nextContext_spanId]

/-- The server span at its end, after these addresses were recorded in it. -/
def endedSpan (t : Tracing) (i : Arrival) (r : Recorder) (us : List Http.Uri) (status : Nat) :
    Span :=
  let parent := Hop.extract i.current i.request.headers
  let begun := Span.begin (spanRequest i) (r.nextContext t parent) parent.spanContext.spanId
  recordStatus status (begun.addAttributes
    (if (opened t i r).1.context.valid then us.map urlAttribute else []))

theorem scope_endedSpan (us : List Http.Uri) (status : Nat) :
    (endedSpan t i r us status).scope = scope :=
  congrArg (·.1) ((head_recordStatus ..).trans (Span.head_addAttributes ..))

theorem spanId_endedSpan (us : List Http.Uri) (status : Nat) :
    (endedSpan t i r us status).context.spanId = t.ids.span r.spans :=
  (congrArg (·.2.2.2.1.spanId) ((head_recordStatus ..).trans (Span.head_addAttributes ..))).trans
    (Recorder.nextContext_spanId ..)

theorem attributes_endedSpan (us : List Http.Uri) (status : Nat) :
    (endedSpan t i r us status).attributes =
      serverAttributes i (r.traceId t (Hop.extract i.current i.request.headers)) status
        ((i.request.uri, us), t.ids.span r.spans) := by
  have hstatus (s : Span) : s.addAttribute (statusKey, .integer status) =
      s.addAttributes [(statusKey, .integer status)] := rfl
  have hlength : (openingAttributes i).length ≤ Span.maxAttributes :=
    Nat.le_trans (length_openingAttributes_le i) (by decide)
  rw [endedSpan, attributes_recordStatus, hstatus, ← Span.addAttributes_append,
    Span.attributes_addAttributes_of_le _ _ (by rwa [attributes_begin]), attributes_begin,
    ← List.append_assoc]
  simp only [serverAttributes, valid_opened]

/-- A tracing layer ends its server span behind what is kept further in, and leaves the spans that
ran before alone. -/
theorem traceRequest_run {us : List Http.Uri}
    (hinner : (s (arrivalInside t i r) (opened t i r).2).2.running =
      ((opened t i r).2.addTo (arrivalInside t i r).current (us.map urlAttribute)).running) :
    let served := s (arrivalInside t i r) (opened t i r).2
    (traceRequest t s i r).2.running = r.running ∧
      (traceRequest t s i r).2.ended = served.2.ended ++
        if r.sampled t (Hop.extract i.current i.request.headers) then
          [endedSpan t i r us served.1.status]
        else [] := by
  intro served
  have hleads := (Recorder.leads_start t r (spanRequest i)
    (Hop.extract i.current i.request.headers)).addTo (c := (arrivalInside t i r).current) rfl
    (us.map urlAttribute)
  have hserved : served.2.Leads (opened t i r).1 _ r.running := hinner.trans hleads
  obtain ⟨hrunning, hended⟩ := (hserved.update (recordStatus served.1.status)).finish
  refine ⟨hrunning, hended.trans ?_⟩
  rw [Recorder.update_ended, opened, Recorder.start_recorder]
  cases r.sampled t (Hop.extract i.current i.request.headers) <;> rfl

theorem records_requestSpan (h : ∀ (i : Arrival) (r : Recorder), Records t ls i r (s i r))
    (i : Arrival) (r : Recorder) : Records t (requestSpan :: ls) i r (traceRequest t s i r) := by
  obtain ⟨hinner, children, servers, hkept, hchildren, hservers, htold⟩ :=
    h (arrivalInside t i r) (opened t i r).2
  obtain ⟨hrunning, hended⟩ := traceRequest_run hinner
  obtain ⟨htrace, hsampled⟩ := decision_inside t i r (opened t i r).2
  have hspans : (opened t i r).2.spans = r.spans + 1 := Recorder.start_spans ..
  have hbefore : (opened t i r).2.ended = r.ended := Recorder.start_ended ..
  rw [show (arrivalInside t i r).request.headers = i.request.headers from rfl, htrace, hsampled,
    hspans] at htold
  let last := if r.sampled t (Hop.extract i.current i.request.headers) then
    [endedSpan t i r (outside ls i.request.uri) (traceRequest t s i r).1.status] else []
  refine ⟨hrunning.trans Recorder.addTo_nil.symm, children, servers ++ last, ?_, hchildren, ?_, ?_⟩
  · rw [hended, hkept, hbefore, List.append_assoc]
    rfl
  · intro x hx
    rcases List.mem_append.mp hx with hx | hx
    · exact hservers x hx
    · dsimp only [last] at hx
      split at hx
      · rw [List.mem_singleton.mp hx]
        exact scope_endedSpan ..
      · cases hx
  · rw [List.map_append, htold]
    dsimp only [last]
    split
    · rw [List.map_singleton, spanId_endedSpan, attributes_endedSpan]
      exact List.reverse_cons.symm
    · rfl

theorem records_fullUrl (h : ∀ (i : Arrival) (r : Recorder), Records t ls i r (s i r))
    (i : Arrival) (r : Recorder) : Records t (fullUrl :: ls) i r (recordUrl s i r) := by
  let recorded := r.addTo (nearest i) [urlAttribute i.request.uri]
  obtain ⟨hended, htraces, hspans⟩ := r.addTo_frame (nearest i) [urlAttribute i.request.uri]
  obtain ⟨hrunning, children, servers, hkept, hchildren, hservers, hattributes⟩ := h i recorded
  let parent := Hop.extract i.current i.request.headers
  have htrace : recorded.traceId t parent = r.traceId t parent := by
    simp only [Recorder.traceId, recorded, htraces]
  have hsampled : recorded.sampled t parent = r.sampled t parent := by
    simp only [Recorder.sampled, Recorder.traceId, recorded, htraces]
  rw [htrace, hsampled, show recorded.spans = r.spans from hspans] at hattributes
  rw [recordUrl_eq]
  refine ⟨hrunning.trans Recorder.addTo_addTo, children, servers, ?_, hchildren, hservers,
    hattributes⟩
  rw [hkept, hended]

theorem records_wrap (h : ∀ (i : Arrival) (r : Recorder), Records t [] i r (s i r))
    (ls : List Layer) (i : Arrival) (r : Recorder) : Records t ls i r (wrap t ls s i r) := by
  induction ls generalizing i r with
  | nil => exact h i r
  | cons l ls ih =>
    cases l with
    | requestSpan => exact records_requestSpan ih i r
    | fullUrl => exact records_fullUrl ih i r
    | below place =>
      obtain ⟨hrunning, hkept⟩ := ih (arrivalBelow place i) r
      exact ⟨hrunning, hkept⟩

end Layer

/-- Whatever the current context, children leave the spans that run alone. -/
theorem Handler.children_kept (t : Tracing) (current : Context) (names : List String)
    (r : Recorder) : (names.foldl (child t current) r).running = r.running ∧
      ∃ kept, (names.foldl (child t current) r).ended = r.ended ++ kept ∧
        ∀ s ∈ kept, s.scope = scope ∧ s.attributes = [] := by
  induction names generalizing r with
  | nil => exact ⟨rfl, [], (List.append_nil _).symm, nofun⟩
  | cons name names ih =>
    obtain ⟨hrunning, hended⟩ :=
      (Recorder.leads_start t r ⟨scope, name, .internal, []⟩ current).finish
    obtain ⟨hrunning', kept, hended', hkept⟩ := ih (child t current r name)
    let a := (r.start t ⟨scope, name, .internal, []⟩ current).1
    refine ⟨hrunning'.trans hrunning, (a.recorder.map fun _ =>
      Span.begin ⟨scope, name, .internal, []⟩ (r.nextContext t current)
        current.spanContext.spanId).toList ++ kept, hended'.trans ?_, ?_⟩
    · rw [show (child t current r name).ended = _ from hended, Recorder.start_ended,
        List.append_assoc]
    · intro s hs
      rcases List.mem_append.mp hs with hs | hs
      · rw [Option.mem_toList, Option.map_eq_some_iff] at hs
        obtain ⟨n, -, rfl⟩ := hs
        exact ⟨rfl, rfl⟩
      · exact hkept s hs

theorem Handler.records (t : Tracing) (h : Handler) (i : Arrival) (r : Recorder) :
    Layer.Records t [] i r (h.service t i r) := by
  obtain ⟨hrunning, kept, hended, hkept⟩ := children_kept t i.current h.children r
  refine ⟨hrunning.trans Recorder.addTo_nil.symm, kept, [], ?_, hkept, nofun, ?_⟩
  · rw [List.append_nil]
    exact hended
  · split <;> rfl

/-- Under a stack of attachments on any router, each recording layer, alone or as a part of tracing,
records the address once: on the server span of the nearest tracing layer around it, else on the
current span, and on no other span. A span takes what it has room for. -/
theorem attach_urls (t : Tracing) (router : Router)
    (stack : List Attachment) (q : Http.Request) (current : Context) (r : Recorder) :
    let layers := ((router.choice q).endpoint.layers ++ stack.flatMap Attachment.layers).reverse
    (Layer.outside layers q.uri ++ (Layer.within layers q.uri).flatMap Prod.snd).length =
        layers.count .fullUrl ∧
      Layer.Records t layers ((router.choice q).arrival q current) r
        ((Attachment.attach router stack).serve t q current r) := by
  intro layers
  refine ⟨Layer.length_outside_within layers q.uri, ?_⟩
  let arrival := (router.choice q).arrival q current
  obtain ⟨hrunning, hkept⟩ :=
    Layer.records_wrap ((router.choice q).endpoint.handler.records t) layers arrival r
  have hserve : (Attachment.attach router stack).serve t q current r =
      ((router.choice q).finish (Layer.wrap t layers
          ((router.choice q).endpoint.handler.service t) arrival r).1,
        (Layer.wrap t layers ((router.choice q).endpoint.handler.service t) arrival r).2) := by
    rw [← Layer.applyAll_eq_wrap, Attachment.attach_eq, Router.serve_addLayers]
    simp only [Layer.applyAll, List.foldl_append, Endpoint.service]
    rfl
  rw [hserve]
  refine ⟨hrunning, ?_⟩
  rw [Router.status_finish]
  exact hkept

/-- Two layers record outside of tracing, and two within it. -/
example :
    let t : Tracing := ⟨.alwaysOn, fun _ => 1, fun _ => 1⟩
    let job := ({} : Recorder).start t ⟨"job", "work", .internal, []⟩ {}
    let made := (Attachment.attach {} [.url, .tracing, .url, .url]).serve t
      ⟨"GET", .origin ⟨"/orders".toList, none⟩, {}, []⟩ (Context.withSpan {} job.1) job.2
    let url := (Layer.urlKey, AttributeValue.text "/orders")
    made.2.running.map (·.2.attributes) = [[url, url]] ∧
      made.2.ended.map (·.attributes) = [[(Layer.methodKey, .text "GET"),
        (Layer.targetKey, .text "/orders"), (Layer.serverKey, .text Layer.scope), url, url,
        (Layer.statusKey, .integer 404)]] := by
  decide +kernel

/-- A span has no room for so many addresses, though its context is valid; and there is none for a
span in a trace without an id. -/
theorem attach_urls_left_out :
    let q : Http.Request := ⟨"GET", .origin ⟨"/missing".toList, none⟩, {}, []⟩
    let stack := List.replicate 125 Attachment.url ++ [.tracing]
    let addresses (r : Recorder) := r.ended.map fun s =>
      (s.scope, s.context.valid, s.attributes.countP (·.1 == Layer.urlKey))
    (stack.flatMap Attachment.layers).count .fullUrl = 126 ∧
      (stack.flatMap Attachment.layers).getLast? = some .requestSpan ∧
      addresses ((Attachment.attach {} stack).serve ⟨.alwaysOn, fun _ => 1, fun _ => 1⟩ q {} {}).2 =
        [(Layer.scope, true, 125)] ∧
      addresses ((Attachment.attach {} [.tracing]).serve ⟨.alwaysOn, fun _ => 0, fun _ => 1⟩
        q {} {}).2 = [(Layer.scope, false, 0)] := by
  decide +kernel

end TracedService.Server
