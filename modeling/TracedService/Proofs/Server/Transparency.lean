import TracedService.Proofs.Server.Growth
import TracedService.Server.Routes

/-! Tracing is transparent: where handlers do not look at the trace context, no stack of attachments
changes a response. -/

namespace TracedService.Server

/-- The reply is made from the request and its route alone. -/
def Handler.IgnoresTrace (h : Handler) : Prop :=
  ∀ (i : Arrival) (current : Context) (left : Option Context),
    h.reply { i with current := current, left := left } = h.reply i

/-- The response is the same in every context and with every recorder. -/
def Service.IgnoresTrace (s : Service) : Prop :=
  ∀ (i : Arrival) (current : Context) (left : Option Context) (r r' : Recorder),
    (s { i with current := current, left := left } r).1 = (s i r').1

theorem Handler.constant_ignoresTrace (response : Http.Response) :
    (Handler.constant response).IgnoresTrace :=
  fun _ _ _ => rfl

theorem routes_ignoreTrace (i : Identity) :
    (routes i).Every fun e => e.handler.IgnoresTrace := by
  have hone (h : Handler) (hh : h.IgnoresTrace) :
      (Methods.one "GET" h).Every fun e => e.handler.IgnoresTrace := by
    refine ⟨?_, Handler.constant_ignoresTrace _⟩
    intro e he
    rw [List.mem_singleton.mp he]
    exact hh
  refine ⟨?_, Handler.constant_ignoresTrace _⟩
  intro route hroute
  simp only [routes, List.mem_cons, List.not_mem_nil, or_false] at hroute
  rcases hroute with rfl | rfl
  · exact hone _ (Handler.constant_ignoresTrace _)
  · exact hone _ (Handler.constant_ignoresTrace _)

theorem Handler.service_ignoresTrace (t : Tracing) {h : Handler} (hh : h.IgnoresTrace) :
    Service.IgnoresTrace (h.service t) :=
  fun i current left _ _ => hh i current left

theorem Layer.apply_response (t : Tracing) {l : Layer} (hl : ∀ place, l ≠ .below place)
    {s : Service} (h : Service.IgnoresTrace s) (i : Arrival) (r r' : Recorder) :
    (l.apply t s i r).1 = (s i r').1 := by
  cases l with
  | requestSpan => exact h i _ _ _ _
  | fullUrl => exact h i i.current i.left _ _
  | below place => exact absurd rfl (hl place)

theorem Layer.apply_ignoresTrace (t : Tracing) (l : Layer) {s : Service}
    (h : Service.IgnoresTrace s) : Service.IgnoresTrace (l.apply t s) := by
  intro i current left r r'
  by_cases hl : ∀ place, l ≠ .below place
  · rw [apply_response t hl h _ r r, apply_response t hl h _ r' r]
    exact h i current left r r
  · obtain ⟨place, hp⟩ := Classical.not_forall.mp hl
    rw [Classical.not_not.mp hp]
    exact h (arrivalBelow place i) current left r r'

theorem Layer.applyAll_ignoresTrace (t : Tracing) (ls : List Layer) {s : Service}
    (h : Service.IgnoresTrace s) : Service.IgnoresTrace (Layer.applyAll t ls s) := by
  induction ls generalizing s with
  | nil => exact h
  | cons l ls ih => exact ih (apply_ignoresTrace t l h)

theorem Layer.applyAll_response (t : Tracing) {ls : List Layer}
    (hls : ∀ l ∈ ls, ∀ place, l ≠ .below place) {s : Service} (h : Service.IgnoresTrace s)
    (i : Arrival) (r r' : Recorder) : (Layer.applyAll t ls s i r).1 = (s i r').1 := by
  induction ls generalizing s with
  | nil => exact h i i.current i.left r r'
  | cons l ls ih =>
    have hrest := ih (fun l' hl' => hls l' (List.mem_cons_of_mem _ hl')) (apply_ignoresTrace t l h)
    exact hrest.trans (apply_response t (hls l (by simp)) h i r' r')

theorem Endpoint.service_ignoresTrace (t : Tracing) {e : Endpoint} (h : e.handler.IgnoresTrace) :
    Service.IgnoresTrace (e.service t) :=
  Layer.applyAll_ignoresTrace t e.layers (Handler.service_ignoresTrace t h)

/-- Under any stack of attachments, at any rate and for any request, the response is that of the
bare router: its status, its body and the methods it allows. -/
theorem attach_response (t : Tracing) {router : Router}
    (h : router.Every fun e => e.handler.IgnoresTrace) (stack : List Attachment)
    (q : Http.Request) (current : Context) (r r' : Recorder) :
    ((Attachment.attach router stack).serve t q current r).1 = (router.serve t q current r').1 := by
  have hs := Endpoint.service_ignoresTrace t (Router.every_choice h q)
  rw [Attachment.attach_eq, Router.serve_addLayers, Router.serve_eq]
  exact congrArg (router.choice q).finish
    (Layer.applyAll_response t (fun _ hl _ => Attachment.ne_below_of_mem_layers hl) hs _ r r')

/-- A head is asked for below a place, with headers that nobody can read. -/
theorem attach_response_nested :
    ∃ router, Router.nest {} "/api" (routes ⟨"orders", "test", "shop"⟩) = .ok router ∧
      router.Every (fun e => e.handler.IgnoresTrace) ∧
      ((Attachment.attach router [.tracing, .url, .guard .inactive, .tracing]).serve
          ⟨.alwaysOn, fun _ => 1, fun _ => 1⟩
          ⟨"HEAD", .origin ⟨"/api/healthz".toList, none⟩,
            ⟨[("traceparent", [0xFF]), ("tracestate", [0x3D]), ("baggage", [0x2C, 0x25])]⟩, []⟩
          {} {}).1 =
        (router.serve ⟨.alwaysOn, fun _ => 1, fun _ => 1⟩
          ⟨"HEAD", .origin ⟨"/api/healthz".toList, none⟩,
            ⟨[("traceparent", [0xFF]), ("tracestate", [0x3D]), ("baggage", [0x2C, 0x25])]⟩, []⟩
          {} {}).1 := by
  have hmade :
      ∃ router, Router.nest {} "/api" (routes ⟨"orders", "test", "shop"⟩) = .ok router := by
    have hhealth : Router.joined "/api" "/healthz" = "/api/healthz" := by
      decide +kernel
    have hroot : Router.joined "/api" "/" = "/api" := by
      decide +kernel
    simp only [Router.nest, routes, List.foldlM_cons, List.foldlM_nil, hhealth, hroot]
    exact ⟨_, rfl⟩
  obtain ⟨router, hmade⟩ := hmade
  have hempty : Router.Every (fun e => e.handler.IgnoresTrace) {} := by
    refine ⟨?_, Handler.constant_ignoresTrace _⟩
    intro route hroute
    cases hroute
  have hr := hempty.nest (routes_ignoreTrace _).1 (fun _ he => he) hmade
  exact ⟨router, hmade, hr, attach_response _ hr _ _ _ _ _⟩

end TracedService.Server
