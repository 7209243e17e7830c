import TracedService.Proofs.Server.Continuity
import TracedService.Proofs.Server.Growth
import TracedService.Server.Routes

/-! What a server span says when it is exported. Main statement: `instrument_content`, it tells the
route of the request and the status of the response, and each attribute once. -/

namespace TracedService

/-- No id that is handed out is zero. -/
def IdSource.Nonzero (ids : IdSource) : Prop :=
  (∀ n, ids.trace n ≠ 0) ∧ ∀ n, ids.span n ≠ 0

/-- The active span, if there is one, has ids, or else it is a local one that is not sampled. -/
def Context.Valid (c : Context) : Prop :=
  ∀ a, c.active = some a →
    a.context.valid = true ∨ a.context.remote = false ∧ a.context.sampled = false

namespace Server

variable {t : Tracing} {q : Http.Request} {current : Context}

theorem valid_extract (h : current.Valid) (headers : Http.Headers) :
    (Hop.extract current headers).Valid := by
  intro a ha
  rcases extract_active current headers with ⟨c, state, accepted, hactive⟩ | ⟨-, hactive⟩
  · obtain ⟨text, -, hread⟩ := Option.bind_eq_some_iff.mp accepted
    rw [hactive, Option.some.injEq] at ha
    rw [← ha]
    exact .inl (TraceParent.of_read? hread).1
  · exact h a (hactive ▸ ha)

/-- The next span has ids if it is sampled. -/
theorem valid_nextContext (hids : t.ids.Nonzero) (h : current.Valid) {r : Recorder}
    (hsampled : r.sampled t current = true) : (r.nextContext t current).valid = true := by
  have htrace : r.traceId t current ≠ 0 := by
    rw [Recorder.sampled] at hsampled
    rw [Recorder.traceId]
    cases ha : current.active with
    | none => exact hids.1 r.traces
    | some a =>
      rcases h a ha with hvalid | ⟨hlocal, hunsampled⟩
      · rw [SpanContext.valid, Bool.and_eq_true, bne_iff_ne] at hvalid
        exact hvalid.1
      · simp [ha, hlocal, hunsampled] at hsampled
  rw [SpanContext.valid, Bool.and_eq_true, bne_iff_ne, bne_iff_ne, Recorder.nextContext_traceId,
    Recorder.nextContext_spanId]
  exact ⟨htrace, hids.2 r.spans⟩

/-- The path is served under that pattern, one of those on offer, or under none if none fits. -/
inductive Matched (offered : List String) (path : List Char) : Option String → Prop
  | route (name : String) (pattern : Pattern) (offer : name ∈ offered)
      (reads : Pattern.read? name = some pattern) (fits : pattern.fits path = true) :
      Matched offered path (some name)
  | nothing (unfit : ∀ name ∈ offered, ∀ pattern, Pattern.read? name = some pattern →
      pattern.fits path = false) : Matched offered path none

theorem matched_choice {additions : List Addition} {router : Router}
    (built : ({} : Router).extend additions = .ok router) (q : Http.Request) :
    Matched ((additions.flatMap Addition.offers).map Prod.fst) q.uri.path
      (router.choice q).route := by
  obtain ⟨htable, hoffered⟩ := Router.table_of_extend built
  rw [Router.choice]
  cases hroute : router.route? q.uri.path with
  | some route =>
    obtain ⟨hmem, hfits⟩ := Router.of_route? hroute
    obtain ⟨hreads, hoffer⟩ := htable (route.path, route.pattern) (List.mem_map_of_mem hmem)
    exact .route route.path route.pattern hoffer hreads hfits
  | none =>
    refine .nothing fun name hname pattern hpattern => ?_
    obtain ⟨e, he, rfl⟩ := List.mem_map.mp (hoffered name hname)
    obtain ⟨route, hmem, rfl⟩ := List.mem_map.mp he
    have hreads := (htable _ he).1
    rw [hpattern] at hreads
    rw [Option.some.inj hreads]
    exact Router.not_fits_of_route? hroute route hmem

theorem Router.status_finish (router : Router) (q : Http.Request) (response : Http.Response) :
    ((router.choice q).finish response).status = response.status := by
  have htrimmed (response : Http.Response) :
      (trimmed q.method response).status = response.status := by
    unfold trimmed
    split <;> rfl
  unfold choice
  split
  · rename_i route hroute
    refine (htrimmed _).trans ?_
    unfold Methods.choice
    split
    · rfl
    · unfold Methods.withAllow
      split <;> rfl
  · exact htrimmed _

namespace Layer

/-- The keys that every server span has. -/
def fixedKeys : List String :=
  [methodKey, targetKey, serverKey, urlKey, statusKey]

/-- The keys of a span in the order of its attributes. -/
def spanKeys (routed : Bool) : List String :=
  [methodKey, targetKey, serverKey] ++ (if routed then [routeKey] else []) ++ [urlKey, statusKey]

theorem count_spanKeys (routed : Bool) : ∀ key ∈ fixedKeys, (spanKeys routed).count key = 1 := by
  cases routed <;> decide

theorem mem_spanKeys (routed : Bool) :
    ∀ key ∈ spanKeys routed, key ∈ fixedKeys ∨ key = routeKey := by
  cases routed <;> decide

theorem attributes_addAttribute {s : Span} (a : SpanAttribute)
    (h : s.attributes.length < Span.maxAttributes) :
    (s.addAttribute a).attributes = s.attributes ++ [a] := by
  rw [Span.addAttribute, if_pos h]

theorem status_addAttribute (a : SpanAttribute) (s : Span) :
    (s.addAttribute a).status = s.status := by
  unfold Span.addAttribute
  split <;> rfl

theorem attributes_recordStatus (status : Nat) (s : Span) :
    (recordStatus status s).attributes =
      (s.addAttribute (statusKey, .integer status)).attributes := by
  unfold recordStatus
  split <;> rfl

theorem status_recordStatus (status : Nat) (s : Span) : (recordStatus status s).status =
    if Http.Status.isServerError status then .failed (Http.Status.line status) else s.status := by
  unfold recordStatus
  split
  · rfl
  · exact status_addAttribute _ s

end Layer

/-- The server span of a request that was served under a route, or under none, and answered with a
status. -/
structure ServerSpan (q : Http.Request) (route : Option String) (status : Nat) (s : Span) :
    Prop where
  scope : s.scope = Layer.scope
  kind : s.kind = .server
  name : s.name = route.getD ("HTTP " ++ q.method)
  fixed : ∀ key ∈ Layer.fixedKeys, (s.attributes.map Prod.fst).count key = 1
  route : s.attributes.filter (·.1 == Layer.routeKey) =
    (route.map fun name => (Layer.routeKey, AttributeValue.text name)).toList
  others : ∀ a ∈ s.attributes, a.1 ∈ Layer.fixedKeys ∨ a.1 = Layer.routeKey
  code : (Layer.statusKey, .integer status) ∈ s.attributes
  request : (Layer.methodKey, .text q.method) ∈ s.attributes ∧
    (Layer.targetKey, .text (String.ofList q.uri.target)) ∈ s.attributes ∧
    (Layer.serverKey, .text Layer.scope) ∈ s.attributes ∧
    (Layer.urlKey, .text (String.ofList q.uri.text)) ∈ s.attributes
  failure : (∃ text, s.status = .failed text) ↔ 500 ≤ status ∧ status < 600

variable {i : Arrival} {r : Recorder}

namespace Layer

theorem keys_openingAttributes (i : Arrival) : (openingAttributes i).map Prod.fst =
    [methodKey, targetKey, serverKey] ++ if i.route.isSome then [routeKey] else [] := by
  unfold openingAttributes
  cases i.route <;> rfl

theorem length_openingAttributes_le (i : Arrival) : (openingAttributes i).length ≤ 4 := by
  rw [← List.length_map Prod.fst, keys_openingAttributes]
  split <;> decide

theorem attributes_begin (i : Arrival) (c : SpanContext) (parent : SpanId) :
    (Span.begin (spanRequest i) c parent).attributes = openingAttributes i :=
  List.take_of_length_le (Nat.le_trans (length_openingAttributes_le i) (by decide))

theorem attributes_servedSpan (status : Nat)
    (hvalid : (r.nextContext t (Hop.extract i.current i.request.headers)).valid = true) :
    (servedSpan t i r status).attributes = openingAttributes i ++
      [(urlKey, .text (String.ofList i.request.uri.text)), (statusKey, .integer status)] := by
  have hlength := length_openingAttributes_le i
  have hroom : (openingAttributes i).length < Span.maxAttributes :=
    Nat.lt_of_le_of_lt hlength (by decide)
  have hroom' : (openingAttributes i).length + 1 < Span.maxAttributes :=
    Nat.lt_of_le_of_lt (Nat.succ_le_succ hlength) (by decide)
  rw [servedSpan, attributes_recordStatus, withUrl, if_pos hvalid, attributes_addAttribute,
    attributes_addAttribute]
  · rw [attributes_begin, List.append_assoc]
    rfl
  · rwa [attributes_begin]
  · rw [attributes_addAttribute _ (by rwa [attributes_begin]), attributes_begin, List.length_append]
    exact hroom'

theorem status_servedSpan (status : Nat) : (servedSpan t i r status).status =
    if Http.Status.isServerError status then .failed (Http.Status.line status) else .unset := by
  rw [servedSpan, status_recordStatus, withUrl]
  split
  · rfl
  · split
    · rw [status_addAttribute]
      rfl
    · rfl

theorem servedSpan_content (status : Nat)
    (hvalid : (r.nextContext t (Hop.extract i.current i.request.headers)).valid = true) :
    ServerSpan i.request i.route status (servedSpan t i r status) := by
  have hhead := head_servedSpan t i r status
  have hattributes := attributes_servedSpan status hvalid
  have hkeys : (servedSpan t i r status).attributes.map Prod.fst = spanKeys i.route.isSome := by
    rw [hattributes, List.map_append, keys_openingAttributes]
    rfl
  refine ⟨congrArg (·.1) hhead, congrArg (·.2.2.1) hhead, congrArg (·.2.1) hhead, ?_, ?_, ?_, ?_,
    ?_, ?_⟩
  · rw [hkeys]
    exact count_spanKeys _
  · have hforeign : ∀ key ∈ fixedKeys, (key == routeKey) = false := by decide
    simp only [fixedKeys, List.forall_mem_cons] at hforeign
    obtain ⟨hmethod, htarget, hserver, hurl, hcode, -⟩ := hforeign
    rw [hattributes, openingAttributes]
    cases i.route with
    | none => simp [hmethod, htarget, hserver, hurl, hcode]
    | some name => simp [hmethod, htarget, hserver, hurl, hcode]
  · intro a ha
    exact mem_spanKeys _ a.1 (hkeys ▸ List.mem_map_of_mem ha)
  · rw [hattributes]
    simp
  · rw [hattributes, openingAttributes]
    simp
  · rw [status_servedSpan]
    by_cases hstatus : Http.Status.isServerError status = true
    · rw [if_pos hstatus]
      exact iff_of_true ⟨_, rfl⟩ (by simpa [Http.Status.isServerError] using hstatus)
    · rw [if_neg hstatus]
      exact iff_of_false nofun (by simpa [Http.Status.isServerError] using hstatus)

end Layer

/-- Children are not from the tracer of server spans. -/
theorem scope_of_mem_childSpans {parent : SpanContext} {n : Nat} {names : List String} {s : Span}
    (h : s ∈ childSpans t parent n names) : s.scope ≠ Layer.scope := by
  have hscope : Handler.scope ≠ Layer.scope := by decide
  induction names generalizing n with
  | nil => cases h
  | cons name names ih =>
    rcases List.mem_cons.mp h with rfl | h
    · exact hscope
    · exact ih h

/-- What is kept of a request whose server span is sampled. -/
theorem ended_of_sampled {router : Router} (h : router.Every Endpoint.Untraced) (q : Http.Request)
    (r : Recorder) (sampled : r.sampled t (Hop.extract current q.headers) = true) :
    let made := router.instrument.serve t q current r
    made.2.ended = r.ended ++ childSpans t (r.nextContext t (Hop.extract current q.headers))
        (r.spans + 1) (router.choice q).endpoint.handler.children ++
      [Layer.servedSpan t ((router.choice q).arrival q current) r made.1.status] := by
  intro made
  have hsampled : (r.nextContext t (Hop.extract current q.headers)).sampled = true := by
    rw [Recorder.nextContext_sampled, sampled]
  obtain ⟨seen, -, -, -, hended⟩ :=
    Endpoint.full_served (t := t) (Router.every_choice h q) ((router.choice q).arrival q current) r
  have hserve : made = _ := Router.serve_addLayers t router Layer.full q current r
  rw [hserve, Router.status_finish]
  refine hended.trans ?_
  rw [List.append_assoc]
  exact congrArg _ (if_pos hsampled)

/-- Of a request whose server span is sampled, one server span is exported, after the spans of the
handler. It tells the pattern that the path is served under, whatever the method, and the status
that the client receives. -/
theorem instrument_content (t : Tracing) {additions : List Addition} {router : Router}
    (built : ({} : Router).extend additions = .ok router)
    (bare : ∀ o ∈ additions.flatMap Addition.offers, o.2.Every Endpoint.Untraced)
    (ids : t.ids.Nonzero) (q : Http.Request) (current : Context) (around : current.Valid)
    (r : Recorder) (sampled : r.sampled t (Hop.extract current q.headers) = true) :
    let made := router.instrument.serve t q current r
    Matched ((additions.flatMap Addition.offers).map Prod.fst) q.uri.path (router.choice q).route ∧
      ∃ children span, made.2.ended = r.ended ++ children ++ [span] ∧
        (∀ s ∈ children, s.scope ≠ Layer.scope) ∧
        ServerSpan q (router.choice q).route made.1.status span := by
  intro made
  have huntraced : router.Every Endpoint.Untraced :=
    Router.every_of_built bare (fun _ _ hl => absurd hl List.not_mem_nil) built
  have hvalid := valid_nextContext ids (valid_extract around q.headers) sampled
  exact ⟨matched_choice built q, _, _, ended_of_sampled huntraced q r sampled,
    fun s => scope_of_mem_childSpans,
    Layer.servedSpan_content (i := (router.choice q).arrival q current) made.1.status hvalid⟩

/-- A handler fails below a place, a method is not allowed there, and a path is unknown. -/
theorem instrument_content_shop :
    let t : Tracing := ⟨.alwaysOn, fun _ => 1, fun _ => 1⟩
    let additions : List Addition := [
      .nest "/shop" { routes := [⟨"/orders/\x7bid\x7d",
        "/orders/".toList.map .literal ++ [.segment "id".toList],
        .one "GET" { children := ["query"], reply := fun _ => ⟨500, [], none⟩ }⟩] },
      .offer "/healthz" (.one "GET" healthz)]
    ∃ router, ({} : Router).extend additions = .ok router ∧
      ∀ e ∈ [("GET", "/shop/orders/7", some "/shop/orders/\x7bid\x7d", 500),
          ("POST", "/shop/orders/7", some "/shop/orders/\x7bid\x7d", 405),
          ("GET", "/orders/7", none, 404)],
        ∃ children span,
          (router.instrument.serve t ⟨e.1, .origin ⟨e.2.1.toList, none⟩, {}, []⟩ {} {}).2.ended =
            children ++ [span] ∧
          ServerSpan ⟨e.1, .origin ⟨e.2.1.toList, none⟩, {}, []⟩ e.2.2.1 e.2.2.2 span := by
  intro t additions
  have hbare : ∀ o ∈ additions.flatMap Addition.offers, o.2.Every Endpoint.Untraced := by
    simp [additions, Addition.offers, Methods.Every, Methods.one, Methods.addLayer,
      Endpoint.addLayer, Endpoint.Untraced]
  obtain ⟨router, hbuilt, hanswers⟩ : ∃ router, ({} : Router).extend additions = .ok router ∧
      ∀ e ∈ [("GET", "/shop/orders/7", some "/shop/orders/\x7bid\x7d", 500),
          ("POST", "/shop/orders/7", some "/shop/orders/\x7bid\x7d", 405),
          ("GET", "/orders/7", none, 404)],
        (router.choice ⟨e.1, .origin ⟨e.2.1.toList, none⟩, {}, []⟩).route = e.2.2.1 ∧
        (router.instrument.serve t ⟨e.1, .origin ⟨e.2.1.toList, none⟩, {}, []⟩ {} {}).1.status =
          e.2.2.2 := by
    have hjoined : Router.joined "/shop" "/orders/\x7bid\x7d" = "/shop/orders/\x7bid\x7d" := by
      decide +kernel
    have hplace : Router.isPlace "/shop" = true := by
      decide +kernel
    have horders : Pattern.read? "/shop/orders/\x7bid\x7d" =
        some ("/shop/orders/".toList.map .literal ++ [.segment "id".toList]) := by
      decide +kernel
    have hhealth : Pattern.read? "/healthz" = some ("/healthz".toList.map .literal) := by
      decide +kernel
    simp only [additions, Router.extend, List.foldlM_cons, List.foldlM_nil, Addition.apply,
      Router.nest, hplace, if_true, hjoined, Router.offer, horders, hhealth]
    refine ⟨_, rfl, ?_⟩
    decide +kernel
  refine ⟨router, hbuilt, fun e he => ?_⟩
  obtain ⟨hroute, hstatus⟩ := hanswers e he
  have htrace : (1 : TraceId) ≠ 0 := by decide
  have hspanId : (1 : SpanId) ≠ 0 := by decide
  have hids : t.ids.Nonzero := ⟨fun _ => htrace, fun _ => hspanId⟩
  have haround : Context.Valid {} := by
    intro a ha
    cases ha
  obtain ⟨-, children, span, hended, -, hspan⟩ := instrument_content t hbuilt hbare hids
    ⟨e.1, .origin ⟨e.2.1.toList, none⟩, {}, []⟩ {} haround {} rfl
  rw [hroute, hstatus] at hspan
  exact ⟨children, span, hended, hspan⟩

end Server

end TracedService
