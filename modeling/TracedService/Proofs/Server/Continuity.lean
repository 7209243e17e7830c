import TracedService.Proofs.Propagation.Hop
import TracedService.Proofs.Server.Serving
import TracedService.Proofs.Trace.Recorder

/-! A request continues its trace: from the headers, else from the span around it, into the server
span, and from there into what the handler starts and what it sends on. -/

namespace TracedService.Server

open Http (Headers)

/-- The span that the `traceparent` header names, if the header is accepted. -/
def acceptedParent? (h : Headers) : Option SpanContext :=
  (h.get? Hop.traceParentHeader).bind fun text => TraceParent.read? text.toList

/-- A server span and its parent's id under what the headers name, else under the span that is
current, else in a trace of its own. A local span hands down its decision; otherwise the policy
decides. -/
inductive Continues (t : Tracing) (h : Headers) (current : Context) (r : Recorder)
    (server : SpanContext) (parent : SpanId) : Prop where
  | header (c : SpanContext) (accepted : acceptedParent? h = some c)
      (trace : server.traceId = c.traceId) (under : parent = c.spanId)
      (decision : server.sampled = t.policy.samples (current.withRemote c) c.traceId)
  | surrounding (a : ActiveSpan) (refused : acceptedParent? h = none)
      (around : current.active = some a) (trace : server.traceId = a.context.traceId)
      (under : parent = a.context.spanId)
      (decision : server.sampled = if a.context.remote
        then t.policy.samples current a.context.traceId else a.context.sampled)
  | fresh (refused : acceptedParent? h = none) (nothing : current.active = none)
      (trace : server.traceId = t.ids.trace r.traces) (under : parent = 0)
      (decision : server.sampled = t.policy.samples current server.traceId)

theorem extract_active (current : Context) (h : Headers) :
    (∃ c state, acceptedParent? h = some c ∧
      (Hop.extract current h).active = some ⟨{ c with traceState := state }, none⟩) ∨
    acceptedParent? h = none ∧ (Hop.extract current h).active = current.active := by
  rw [Hop.extract_active, Hop.spanContext?, acceptedParent?]
  cases h.get? Hop.traceParentHeader with
  | none => exact .inr ⟨rfl, rfl⟩
  | some text =>
    rw [Option.getD_some, Option.bind_some]
    cases TraceParent.read? text.toList with
    | none => exact .inr ⟨rfl, rfl⟩
    | some c => exact .inl ⟨c, _, rfl, rfl⟩

theorem remote_of_accepted {h : Headers} {c : SpanContext} (accepted : acceptedParent? h = some c) :
    c.remote = true := by
  obtain ⟨text, -, hread⟩ := Option.bind_eq_some_iff.mp accepted
  exact (TraceParent.of_read? hread).2.1

theorem nextContext_continues (t : Tracing) (h : Headers) (current : Context) (r : Recorder) :
    Continues t h current r (r.nextContext t (Hop.extract current h))
      (Hop.extract current h).spanContext.spanId := by
  rcases extract_active current h with ⟨c, state, haccepted, hactive⟩ | ⟨hrefused, hactive⟩
  · have hremote := remote_of_accepted haccepted
    apply Continues.header c haccepted
    · rw [Recorder.nextContext_traceId, Recorder.traceId, hactive]
    · rw [Context.spanContext, hactive]
    · rw [Recorder.nextContext_sampled, Recorder.sampled, hactive]
      simp only [hremote, if_true]
      exact t.policy.samples_congr _ (by rw [hactive]; rfl)
  · cases hcurrent : current.active with
    | some a =>
      rw [hcurrent] at hactive
      apply Continues.surrounding a hrefused hcurrent
      · rw [Recorder.nextContext_traceId, Recorder.traceId, hactive]
      · rw [Context.spanContext, hactive]
      · rw [Recorder.nextContext_sampled, Recorder.sampled, hactive]
        simp only [t.policy.samples_congr a.context.traceId
          (show (Hop.extract current h).active.map (·.context.sampled) =
            current.active.map (·.context.sampled) by rw [hactive, hcurrent])]
    | none =>
      rw [hcurrent] at hactive
      apply Continues.fresh hrefused hcurrent
      · rw [Recorder.nextContext_traceId, Recorder.traceId, hactive]
      · rw [Context.spanContext, hactive]
        rfl
      · rw [Recorder.nextContext_sampled, Recorder.sampled, hactive, Recorder.nextContext_traceId]
        exact t.policy.samples_congr _ (by rw [hactive, hcurrent])

variable {t : Tracing} {current : Context} {a : ActiveSpan}

theorem nextContext_of_local (r : Recorder) (ha : current.active = some a)
    (hlocal : a.context.remote = false) :
    (r.nextContext t current).traceId = a.context.traceId ∧
      r.sampled t current = a.context.sampled := by
  rw [Recorder.nextContext_traceId, Recorder.traceId, Recorder.sampled, ha]
  simp [hlocal]

/-- What starts under a local span is of its trace, has it as parent, and is recorded if it is. -/
theorem start_of_local (r : Recorder) (request : SpanRequest) (ha : current.active = some a)
    (hlocal : a.context.remote = false) :
    let made := r.start t request current
    made.1.context.traceId = a.context.traceId ∧ made.1.recorder.isSome = a.context.sampled ∧
      made.2.Leads made.1 (Span.begin request made.1.context a.context.spanId) r.running := by
  intro made
  obtain ⟨htrace, hsampled⟩ := nextContext_of_local (t := t) r ha hlocal
  have hparent : current.spanContext.spanId = a.context.spanId := by
    rw [Context.spanContext, ha]
  have hleads := Recorder.leads_start t r request current
  rw [hparent, ← Recorder.start_context t r request current] at hleads
  refine ⟨(congrArg _ (Recorder.start_context ..)).trans htrace, ?_, hleads⟩
  rw [Recorder.start_recorder, hsampled]
  cases a.context.sampled <;> rfl

/-- A child's span; `n` is its number. -/
def childSpan (t : Tracing) (parent : SpanContext) (n : Nat) (name : String) : Span :=
  Span.begin ⟨Handler.scope, name, .internal, []⟩
    ⟨parent.traceId, t.ids.span n, true, false, parent.traceState⟩ parent.spanId

/-- The spans of children one after the other; `n` is the number of the first. -/
def childSpans (t : Tracing) (parent : SpanContext) (n : Nat) : List String → List Span
  | [] => []
  | name :: names => childSpan t parent n name :: childSpans t parent (n + 1) names

theorem childSpans_names (parent : SpanContext) (n : Nat) (names : List String) :
    (childSpans t parent n names).map (·.name) = names := by
  induction names generalizing n with
  | nil => rfl
  | cons name names ih => rw [childSpans, List.map_cons, ih]; rfl

theorem of_mem_childSpans {parent : SpanContext} {n : Nat} {names : List String} {s : Span}
    (h : s ∈ childSpans t parent n names) :
    s.context.traceId = parent.traceId ∧ s.parent = parent.spanId := by
  induction names generalizing n with
  | nil => cases h
  | cons name names ih =>
    rcases List.mem_cons.mp h with rfl | h
    · exact ⟨rfl, rfl⟩
    · exact ih h

theorem Handler.child_step (r : Recorder) (name : String) (ha : current.active = some a)
    (hlocal : a.context.remote = false) :
    (child t current r name).running = r.running ∧
      (child t current r name).spans = r.spans + 1 ∧
      (child t current r name).ended =
        r.ended ++ if a.context.sampled then [childSpan t a.context r.spans name] else [] := by
  obtain ⟨htrace, hsampled⟩ := nextContext_of_local (t := t) r ha hlocal
  have hcurrent : current.spanContext = a.context := by
    rw [Context.spanContext, ha]
  obtain ⟨hrunning, hended⟩ :=
    (Recorder.leads_start t r ⟨scope, name, .internal, []⟩ current).finish
  refine ⟨hrunning, Recorder.start_spans .., hended.trans ?_⟩
  rw [Recorder.start_ended, Recorder.start_recorder, hsampled, hcurrent]
  cases hs : a.context.sampled with
  | true =>
    have hcontext : r.nextContext t current =
        ⟨a.context.traceId, t.ids.span r.spans, true, false, a.context.traceState⟩ := by
      rw [Recorder.nextContext_traceId] at htrace
      rw [Recorder.nextContext, if_pos (hsampled.trans hs), htrace, SamplingPolicy.traceState,
        hcurrent]
    rw [hcontext]
    rfl
  | false => rfl

theorem Handler.children_run (r : Recorder) (names : List String) (ha : current.active = some a)
    (hlocal : a.context.remote = false) :
    (names.foldl (child t current) r).running = r.running ∧
      (names.foldl (child t current) r).ended =
        r.ended ++ if a.context.sampled then childSpans t a.context r.spans names else [] := by
  induction names generalizing r with
  | nil => simp [childSpans]
  | cons name names ih =>
    obtain ⟨hrunning, hspans, hended⟩ := child_step (t := t) r name ha hlocal
    obtain ⟨hrunning', hended'⟩ := ih (child t current r name)
    rw [List.foldl_cons]
    refine ⟨hrunning'.trans hrunning, ?_⟩
    rw [hended', hended, hspans, List.append_assoc]
    cases a.context.sampled <;> rfl

theorem Handler.service_run {h : Handler} {i : Arrival} (r : Recorder)
    (ha : i.current.active = some a) (hlocal : a.context.remote = false) :
    (h.service t i r).2.running = r.running ∧ (h.service t i r).2.ended =
      r.ended ++ if a.context.sampled then childSpans t a.context r.spans h.children else [] :=
  children_run r h.children ha hlocal

theorem Layer.applyAll_below {ls : List Layer} (h : ∀ l ∈ ls, ∃ place, l = .below place)
    (s : Service) (i : Arrival) : ∃ i' : Arrival, i'.current = i.current ∧ i'.left = i.left ∧
      ∀ r, applyAll t ls s i r = s i' r := by
  induction ls generalizing s with
  | nil => exact ⟨i, rfl, rfl, fun _ => rfl⟩
  | cons l ls ih =>
    obtain ⟨place, rfl⟩ := h l (by simp)
    obtain ⟨i', hcurrent, hleft, hs⟩ :=
      ih (fun l' hl' => h l' (List.mem_cons_of_mem _ hl')) ((below place).apply t s)
    exact ⟨arrivalBelow place i', hcurrent, hleft, hs⟩

/-- The server span of a request, and the recorder in which it runs. -/
def Layer.opened (t : Tracing) (i : Arrival) (r : Recorder) : ActiveSpan × Recorder :=
  r.start t (spanRequest i) (Hop.extract i.current i.request.headers)

/-- The request within its server span. -/
def Layer.arrivalInside (t : Tracing) (i : Arrival) (r : Recorder) : Arrival :=
  let context := (Hop.extract i.current i.request.headers).withSpan (opened t i r).1
  { i with current := context, left := some context }

theorem Layer.arrivalInside_active (t : Tracing) (i : Arrival) (r : Recorder) :
    (arrivalInside t i r).current.active = some (opened t i r).1 := rfl

theorem Layer.opened_context (t : Tracing) (i : Arrival) (r : Recorder) :
    (opened t i r).1.context = r.nextContext t (Hop.extract i.current i.request.headers) :=
  Recorder.start_context ..

theorem Layer.opened_local (t : Tracing) (i : Arrival) (r : Recorder) :
    (opened t i r).1.context.remote = false := by
  rw [opened_context, Recorder.nextContext_remote]

theorem Layer.head_recordStatus (status : Nat) (s : Span) :
    (recordStatus status s).head = s.head := by
  unfold recordStatus
  split <;> exact Span.head_addAttribute ..

/-- A span with its URL; a context that is not valid takes none. -/
def Layer.withUrl (i : Arrival) (c : SpanContext) (s : Span) : Span :=
  if c.valid then s.addAttribute (urlKey, .text (String.ofList i.request.uri.text)) else s

/-- The server span of a request that was answered with that status. -/
def Layer.servedSpan (t : Tracing) (i : Arrival) (r : Recorder) (status : Nat) : Span :=
  let parent := Hop.extract i.current i.request.headers
  let server := r.nextContext t parent
  let span := Span.begin (spanRequest i) server parent.spanContext.spanId
  recordStatus status (withUrl i server span)

theorem Layer.head_servedSpan (t : Tracing) (i : Arrival) (r : Recorder) (status : Nat) :
    let parent := Hop.extract i.current i.request.headers
    (servedSpan t i r status).head =
      (scope, spanName i, .server, r.nextContext t parent, parent.spanContext.spanId) := by
  intro parent
  rw [servedSpan, head_recordStatus, withUrl]
  split
  · rw [Span.head_addAttribute]
    rfl
  · rfl

theorem Layer.recordUrl_run (inner : Service) {i : Arrival} {r : Recorder} {s : Span}
    {rest : List (Nat × Span)} (hleft : i.left = some i.current) (ha : i.current.active = some a)
    (h : r.Leads a s rest) : ∃ r', recordUrl inner i r = inner i r' ∧ r'.ended = r.ended ∧
      r'.spans = r.spans ∧ r'.Leads a (withUrl i a.context s) rest := by
  have hnearest : (nearest i).active = some a := by
    rw [nearest, hleft]
    exact ha
  rw [recordUrl, hnearest, withUrl]
  by_cases hv : a.context.valid = true
  · simp only [if_pos hv]
    exact ⟨_, rfl, rfl, rfl, h.update _⟩
  · simp only [if_neg hv]
    exact ⟨r, rfl, rfl, rfl, h⟩

/-- Within both layers a service keeps what it keeps by itself, and after that the server span, if
that is sampled. -/
theorem Layer.full_run {inner : Service} {i : Arrival} {r : Recorder} {kept : List Span}
    (hinner : ∀ r', r'.spans = r.spans + 1 →
      (inner (arrivalInside t i r) r').2.running = r'.running ∧
        (inner (arrivalInside t i r) r').2.ended = r'.ended ++ kept) :
    let parent := Hop.extract i.current i.request.headers
    let made := applyAll t full inner i r
    (∃ r', made.1 = (inner (arrivalInside t i r) r').1) ∧ made.2.running = r.running ∧
      made.2.ended = r.ended ++ kept ++
        if r.sampled t parent then [servedSpan t i r made.1.status] else [] := by
  intro parent made
  obtain ⟨r', hurl, hended, hspans, hleads⟩ :=
    recordUrl_run inner (i := arrivalInside t i r) (a := (opened t i r).1) rfl rfl
      (Recorder.leads_start t r (spanRequest i) parent)
  obtain ⟨hkept, hkeptEnded⟩ := hinner r' (hspans.trans (Recorder.start_spans ..))
  have hmade : made = ((inner (arrivalInside t i r) r').1,
      ((inner (arrivalInside t i r) r').2.update (opened t i r).1
        (recordStatus (inner (arrivalInside t i r) r').1.status)).finish (opened t i r).1) :=
    congrArg (fun m : Http.Response × Recorder => (m.1,
      (m.2.update (opened t i r).1 (recordStatus m.1.status)).finish (opened t i r).1)) hurl
  have hleads : (inner (arrivalInside t i r) r').2.Leads (opened t i r).1 _ r.running :=
    hkept.trans hleads
  obtain ⟨hfinished, hfinishedEnded⟩ :=
    (hleads.update (recordStatus (inner (arrivalInside t i r) r').1.status)).finish
  rw [hmade]
  refine ⟨⟨r', rfl⟩, hfinished, hfinishedEnded.trans ?_⟩
  rw [Recorder.update_ended, hkeptEnded, hended, Recorder.start_ended, opened_context, opened,
    Recorder.start_recorder]
  cases r.sampled t parent <;> rfl

def Endpoint.Untraced (e : Endpoint) : Prop :=
  ∀ l ∈ e.layers, ∃ place, l = .below place

/-- What tracing makes of a request: `server` is the context of its server span, `parent` the id of
the span above, and `seen` what the handler is given. -/
structure Traced (t : Tracing) (router : Router) (q : Http.Request) (current : Context)
    (r : Recorder) (server : SpanContext) (parent : SpanId) (seen : Arrival) : Prop where
  continues : Continues t q.headers current r server parent
  own : server.spanId = t.ids.span r.spans ∧ server.remote = false
  around : seen.current.spanContext = server
  left : seen.left = some seen.current
  response : (router.instrument.serve t q current r).1 =
    (router.choice q).finish ((router.choice q).endpoint.handler.reply seen)
  /-- What is kept: the children under the server span, then that span. -/
  kept : ∃ children span, children.map Span.name = (router.choice q).endpoint.handler.children ∧
    (∀ s ∈ children, s.context.traceId = server.traceId ∧ s.parent = server.spanId) ∧
    span.context = server ∧ span.parent = parent ∧ span.kind = .server ∧
    (router.instrument.serve t q current r).2.ended =
      r.ended ++ if server.sampled then children ++ [span] else []
  /-- Whatever else is started in the handler's context, and whenever. -/
  started : ∀ (r' : Recorder) (request : SpanRequest), let made := r'.start t request seen.current
    made.1.context.traceId = server.traceId ∧ made.1.recorder.isSome = server.sampled ∧
      made.2.Leads made.1 (Span.begin request made.1.context server.spanId) r'.running
  /-- What is sent on from the handler's context. -/
  sent : server.valid = true → ∀ out : Headers, ∃ text,
    (Hop.inject seen.current out).get? Hop.traceParentHeader = some text ∧
      TraceParent.read? text.toList =
        some ⟨server.traceId, server.spanId, server.sampled, true, {}⟩ ∧
      text.toList.drop 53 = if server.sampled then ['0', '1'] else ['0', '0']
  unsent : server.valid = false → ∀ out : Headers,
    (Hop.inject seen.current out).get? Hop.traceParentHeader = out.get? Hop.traceParentHeader

/-- Within both layers an endpoint without layers of its own lets its handler reply in the context
of the server span, which is kept after the children. -/
theorem Endpoint.full_served {e : Endpoint} (h : e.Untraced) (i : Arrival) (r : Recorder) :
    let server := r.nextContext t (Hop.extract i.current i.request.headers)
    let made := Layer.applyAll t Layer.full (e.service t) i r
    ∃ seen, seen.current = (Layer.arrivalInside t i r).current ∧ seen.left = some seen.current ∧
      made.1 = e.handler.reply seen ∧
      made.2.ended = r.ended ++ if server.sampled then
        childSpans t server (r.spans + 1) e.handler.children ++
          [Layer.servedSpan t i r made.1.status] else [] := by
  intro server made
  obtain ⟨seen, hcurrent, hleft, hservice⟩ :=
    Layer.applyAll_below (t := t) h (e.handler.service t) (Layer.arrivalInside t i r)
  have hactive : seen.current.active = some (Layer.opened t i r).1 := by
    rw [hcurrent, Layer.arrivalInside_active]
  have hinner (r' : Recorder) (hspans : r'.spans = r.spans + 1) :
      (e.service t (Layer.arrivalInside t i r) r').2.running = r'.running ∧
        (e.service t (Layer.arrivalInside t i r) r').2.ended = r'.ended ++
          if server.sampled then childSpans t server (r.spans + 1) e.handler.children else [] := by
    have hrun := Handler.service_run (t := t) (h := e.handler) r' hactive (Layer.opened_local t i r)
    rw [Layer.opened_context, hspans] at hrun
    rw [show e.service t (Layer.arrivalInside t i r) r' = _ from hservice r']
    exact hrun
  obtain ⟨⟨r', hresponse⟩, -, hended⟩ := Layer.full_run hinner
  refine ⟨seen, hcurrent, hleft.trans (congrArg some hcurrent.symm), ?_, ?_⟩
  · rw [show made.1 = _ from hresponse, show e.service t (Layer.arrivalInside t i r) r' = _ from
      hservice r']
    rfl
  · have hsampled : r.sampled t (Hop.extract i.current i.request.headers) = server.sampled :=
      (Recorder.nextContext_sampled ..).symm
    rw [show made.2.ended = _ from hended, List.append_assoc]
    simp only [hsampled]
    cases server.sampled <;> rfl

theorem Endpoint.full_run {e : Endpoint} (h : e.Untraced) (i : Arrival) (r : Recorder) :
    let parent := Hop.extract i.current i.request.headers
    let server := r.nextContext t parent
    let made := Layer.applyAll t Layer.full (e.service t) i r
    ∃ seen, seen.current = (Layer.arrivalInside t i r).current ∧ seen.left = some seen.current ∧
      made.1 = e.handler.reply seen ∧
      ∃ span, span.head = (Layer.scope, Layer.spanName i, .server, server,
          parent.spanContext.spanId) ∧
        made.2.ended = r.ended ++ if server.sampled then
          childSpans t server (r.spans + 1) e.handler.children ++ [span] else [] := by
  obtain ⟨seen, hcurrent, hleft, hresponse, hended⟩ := full_served (t := t) h i r
  exact ⟨seen, hcurrent, hleft, hresponse, _, Layer.head_servedSpan t i r _, hended⟩

/-- A router that is instrumented once continues the trace of every request, at any rate and in any
context. -/
theorem instrument_traced (t : Tracing) {router : Router} (h : router.Every Endpoint.Untraced)
    (q : Http.Request) (current : Context) (r : Recorder) :
    ∃ server parent seen, Traced t router q current r server parent seen := by
  obtain ⟨seen, hcurrent, hleft, hresponse, span, hhead, hended⟩ :=
    Endpoint.full_run (t := t) (Router.every_choice h q) ((router.choice q).arrival q current) r
  have hserve := Router.serve_addLayers t router Layer.full q current r
  have hactive : seen.current.active =
      some (Layer.opened t ((router.choice q).arrival q current) r).1 := by
    rw [hcurrent, Layer.arrivalInside_active]
  have hcontext := Layer.opened_context t ((router.choice q).arrival q current) r
  have haround : seen.current.spanContext = r.nextContext t (Hop.extract current q.headers) := by
    rw [Context.spanContext, hactive]
    exact hcontext
  refine ⟨_, _, seen, nextContext_continues t q.headers current r,
    ⟨Recorder.nextContext_spanId .., Recorder.nextContext_remote ..⟩, haround, hleft,
    ?_, ?_, ?_, ?_, ?_⟩
  · rw [Router.instrument, hserve]
    exact congrArg _ hresponse
  · refine ⟨childSpans t _ (r.spans + 1) _, span, childSpans_names .., fun s => of_mem_childSpans,
      ?_, ?_, ?_, ?_⟩
    · exact congrArg (·.2.2.2.1) hhead
    · exact congrArg (·.2.2.2.2) hhead
    · exact congrArg (·.2.2.1) hhead
    · rw [Router.instrument, hserve]
      exact hended
  · intro r' request
    have hstart := start_of_local (t := t) r' request hactive (Layer.opened_local ..)
    rw [hcontext] at hstart
    exact hstart
  · intro hv out
    rw [← haround] at hv ⊢
    exact Hop.read?_inject_traceParent hv out
  · intro hv out
    rw [← haround] at hv
    rw [Hop.get?_inject_traceParent, hv]
    rfl

/-- A sampled trace from outside goes on where half of the traces are sampled. -/
theorem instrument_traced_outside :
    ∃ server parent seen, Traced
        ⟨.parentRatio (.finite false (Nat.pow 2 1073)), fun _ => 1, fun _ => 1⟩
        { routes := [⟨"/orders", "/orders".toList.map .literal,
          .one "GET" { children := ["query"], reply := fun _ => ⟨200, [], none⟩ }⟩] }
        ⟨"GET", .origin ⟨"/orders".toList, none⟩, ⟨[("traceparent", Text.Utf8.encodeText
          "00-0af7651916cd43dd8448eb211c80319c-b7ad6b7169203331-01")]⟩, []⟩
        {} {} server parent seen ∧
      server.traceId = 0x0af7651916cd43dd8448eb211c80319c ∧ parent = 0xb7ad6b7169203331 ∧
      server.sampled = true := by
  have hbare : Router.Every Endpoint.Untraced { routes := [⟨"/orders",
      "/orders".toList.map .literal,
      .one "GET" { children := ["query"], reply := fun _ => ⟨200, [], none⟩ }⟩] } := by
    simp [Router.Every, Methods.Every, Methods.one, Endpoint.Untraced]
  have haccepted : acceptedParent? ⟨[("traceparent", Text.Utf8.encodeText
      "00-0af7651916cd43dd8448eb211c80319c-b7ad6b7169203331-01")]⟩ =
        some ⟨0x0af7651916cd43dd8448eb211c80319c, 0xb7ad6b7169203331, true, true, {}⟩ := by
    decide +kernel
  obtain ⟨server, parent, seen, htraced⟩ := instrument_traced _ hbare _ _ _
  refine ⟨server, parent, seen, htraced, ?_⟩
  cases htraced.continues with
  | header c accepted trace under decision =>
    rw [haccepted] at accepted
    cases accepted
    exact ⟨trace, under, decision⟩
  | surrounding a refused =>
    rw [haccepted] at refused
    cases refused
  | fresh refused =>
    rw [haccepted] at refused
    cases refused

end TracedService.Server
