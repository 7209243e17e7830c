import TracedService.Startup.ProcessState

/-! How a router serves a request: it chooses an endpoint, lets it serve, and finishes the response.
Layers change what the endpoint does, and never which one is chosen. -/

namespace TracedService.Server

/-- What a request meets: an endpoint, the route that led to it, and what is done to the response
at the end. -/
structure Choice where
  endpoint : Endpoint
  route : Option String
  finish : Http.Response → Http.Response

/-- The endpoint of a method; the refusal of a method tells what is allowed. -/
def Methods.choice (m : Methods) (method : String) :
    Endpoint × (Http.Response → Http.Response) :=
  match m.endpoint? method with
  | some e => (e, id)
  | none => (m.otherwise, m.withAllow)

def Router.choice (router : Router) (q : Http.Request) : Choice :=
  match router.route? q.uri.path with
  | some route =>
    let (endpoint, finish) := route.methods.choice q.method
    ⟨endpoint, some route.path, fun response => trimmed q.method (finish response)⟩
  | none => ⟨router.fallback, none, trimmed q.method⟩

def Choice.arrival (c : Choice) (q : Http.Request) (current : Context) : Arrival :=
  ⟨q, c.route, current, none⟩

theorem Methods.service_eq (t : Tracing) (m : Methods) (i : Arrival) (r : Recorder) :
    m.service t i r =
      ((m.choice i.request.method).2 ((m.choice i.request.method).1.service t i r).1,
        ((m.choice i.request.method).1.service t i r).2) := by
  unfold service choice
  cases m.endpoint? i.request.method with
  | none => rfl
  | some e => rfl

/-- A router serves by its choice. -/
theorem Router.serve_eq (t : Tracing) (router : Router) (q : Http.Request) (current : Context)
    (r : Recorder) :
    router.serve t q current r =
      ((router.choice q).finish
          ((router.choice q).endpoint.service t ((router.choice q).arrival q current) r).1,
        ((router.choice q).endpoint.service t ((router.choice q).arrival q current) r).2) := by
  unfold serve service choice
  cases hr : router.route? q.uri.path with
  | none => simp [Choice.arrival]
  | some route => simp [Choice.arrival, Methods.service_eq]

theorem Methods.endpoint?_addLayer (m : Methods) (l : Layer) (method : String) :
    (m.addLayer l).endpoint? method = (m.endpoint? method).map (·.addLayer l) := by
  have hfind (name : String) : (m.addLayer l).served.find? (·.1 == name) =
      (m.served.find? (·.1 == name)).map fun e => (e.1, e.2.addLayer l) := by
    simp only [addLayer, List.find?_map]
    rfl
  unfold endpoint?
  simp only [hfind]
  split
  · cases m.served.find? (·.1 == method) <;> cases m.served.find? (·.1 == "GET") <;> rfl
  · cases m.served.find? (·.1 == method) <;> rfl

theorem Methods.choice_addLayer (m : Methods) (l : Layer) (method : String) :
    (m.addLayer l).choice method = ((m.choice method).1.addLayer l, (m.choice method).2) := by
  unfold choice
  rw [endpoint?_addLayer]
  cases m.endpoint? method with
  | none => rfl
  | some e => rfl

def Route.addLayer (l : Layer) (route : Route) : Route :=
  { route with methods := route.methods.addLayer l }

def Route.better (best : Option Route) (route : Route) : Option Route :=
  match best with
  | some b => some (if route.pattern.precedes b.pattern then route else b)
  | none => some route

theorem Route.better_addLayer (l : Layer) (best : Option Route) (route : Route) :
    better (best.map (addLayer l)) (route.addLayer l) = (better best route).map (addLayer l) := by
  cases best with
  | none => rfl
  | some b =>
    by_cases hp : route.pattern.precedes b.pattern = true
    · simp [better, addLayer, hp]
    · simp [better, addLayer, hp]

theorem Router.route?_addLayer (router : Router) (l : Layer) (path : List Char) :
    (router.addLayer l).route? path = (router.route? path).map (Route.addLayer l) := by
  have hfold (routes : List Route) (best : Option Route) :
      (routes.map (Route.addLayer l)).foldl Route.better (best.map (Route.addLayer l)) =
        (routes.foldl Route.better best).map (Route.addLayer l) := by
    induction routes generalizing best with
    | nil => rfl
    | cons route routes ih =>
      simp only [List.map_cons, List.foldl_cons, Route.better_addLayer, ih]
  have hfilter : ((router.addLayer l).routes.filter fun route => route.pattern.fits path) =
      (router.routes.filter fun route => route.pattern.fits path).map (Route.addLayer l) := by
    simp only [addLayer, List.filter_map]
    rfl
  change ((router.addLayer l).routes.filter fun route => route.pattern.fits path).foldl
    Route.better none = _
  rw [hfilter]
  exact hfold _ none

theorem Router.choice_addLayer (router : Router) (l : Layer) (q : Http.Request) :
    (router.addLayer l).choice q =
      { router.choice q with endpoint := (router.choice q).endpoint.addLayer l } := by
  unfold choice
  rw [route?_addLayer]
  cases router.route? q.uri.path with
  | none => rfl
  | some route => simp only [Option.map_some, Route.addLayer, Methods.choice_addLayer]

/-- The layers of a stack, from the innermost one outwards, around a service. -/
def Layer.applyAll (t : Tracing) (ls : List Layer) (inner : Service) : Service :=
  ls.foldl (fun s l => l.apply t s) inner

theorem Router.choice_addLayers (router : Router) (ls : List Layer) (q : Http.Request) :
    (router.addLayers ls).choice q = { router.choice q with
      endpoint := { (router.choice q).endpoint with
        layers := (router.choice q).endpoint.layers ++ ls } } := by
  induction ls generalizing router with
  | nil => simp [addLayers]
  | cons l ls ih =>
    have := ih (router.addLayer l)
    simp only [addLayers, List.foldl_cons] at this ⊢
    rw [this, choice_addLayer]
    simp [Endpoint.addLayer]

theorem Router.serve_addLayers (t : Tracing) (router : Router) (ls : List Layer) (q : Http.Request)
    (current : Context) (r : Recorder) :
    (router.addLayers ls).serve t q current r =
      let made := Layer.applyAll t ls ((router.choice q).endpoint.service t)
        ((router.choice q).arrival q current) r
      ((router.choice q).finish made.1, made.2) := by
  rw [serve_eq, choice_addLayers]
  simp only [Endpoint.service, List.foldl_append]
  rfl

/-- What can be put on a router: request tracing, the recording of URLs alone, or whatever a guard
brings along. -/
inductive Attachment where
  | tracing
  | url
  | guard (g : Guard)

namespace Attachment

def apply (router : Router) : Attachment → Router
  | tracing => router.instrument
  | url => router.addLayer .fullUrl
  | guard g => ProcessState.instrument g router

/-- The layers that come with it, the outermost last. An inactive guard brings none. -/
def layers : Attachment → List Layer
  | tracing => Layer.full
  | url => [.fullUrl]
  | guard g => if g.active && g.provider.isSome then Layer.full else []

theorem apply_eq (router : Router) (a : Attachment) :
    a.apply router = router.addLayers a.layers := by
  cases a with
  | tracing => rfl
  | url => rfl
  | guard g =>
    simp only [apply, ProcessState.instrument, layers]
    split <;> rfl

/-- A stack of attachments on a router, the outermost last. -/
def attach (router : Router) (stack : List Attachment) : Router :=
  stack.foldl apply router

theorem attach_eq (router : Router) (stack : List Attachment) :
    attach router stack = router.addLayers (stack.flatMap layers) := by
  induction stack generalizing router with
  | nil => rfl
  | cons a stack ih =>
    calc attach router (a :: stack) = attach (a.apply router) stack := rfl
      _ = (router.addLayers a.layers).addLayers (stack.flatMap layers) := by rw [ih, apply_eq]
      _ = router.addLayers ((a :: stack).flatMap layers) := by
        simp [Router.addLayers, List.foldl_append]

/-- Nothing that is put on a router changes what is handed on below it. -/
theorem ne_below_of_mem_layers {stack : List Attachment} {l : Layer} {place : List Char}
    (h : l ∈ stack.flatMap layers) : l ≠ .below place := by
  obtain ⟨a, _, hl⟩ := List.mem_flatMap.mp h
  have hfull : l ∈ Layer.full → l ≠ .below place := by
    intro hm he
    simp [Layer.full, he] at hm
  cases a with
  | tracing => exact hfull hl
  | url =>
    rw [List.mem_singleton.mp hl]
    exact nofun
  | guard g =>
    simp only [layers] at hl
    split at hl
    · exact hfull hl
    · cases hl

end Attachment

variable {P : Endpoint → Prop}

def Methods.Every (P : Endpoint → Prop) (m : Methods) : Prop :=
  (∀ e ∈ m.served, P e.2) ∧ P m.otherwise

/-- The endpoints of all routes, the refusals of other methods, and the fallback. -/
def Router.Every (P : Endpoint → Prop) (router : Router) : Prop :=
  (∀ route ∈ router.routes, route.methods.Every P) ∧ P router.fallback

def Methods.endpoints (m : Methods) : List Endpoint :=
  m.served.map (·.2) ++ [m.otherwise]

def Router.endpoints (router : Router) : List Endpoint :=
  router.routes.flatMap (·.methods.endpoints) ++ [router.fallback]

theorem Methods.every_iff {m : Methods} : m.Every P ↔ ∀ e ∈ m.endpoints, P e := by
  rw [endpoints, List.forall_mem_append, List.forall_mem_map, List.forall_mem_singleton]
  rfl

theorem Router.every_iff {router : Router} : router.Every P ↔ ∀ e ∈ router.endpoints, P e := by
  simp only [Every, endpoints, List.forall_mem_append, List.forall_mem_flatMap,
    List.forall_mem_singleton, Methods.every_iff]

theorem Methods.every_addLayer {m : Methods} {l : Layer} :
    (m.addLayer l).Every P ↔ m.Every fun e => P (e.addLayer l) := by
  rw [Every, addLayer, List.forall_mem_map]
  rfl

theorem Router.every_addLayers {router : Router} {ls : List Layer} :
    (router.addLayers ls).Every P ↔
      router.Every fun e => P { e with layers := e.layers ++ ls } := by
  induction ls generalizing router with
  | nil => simp [addLayers]
  | cons l ls ih =>
    rw [addLayers, List.foldl_cons, ← addLayers, ih]
    simp only [Every, addLayer, List.forall_mem_map, Methods.every_addLayer, Endpoint.addLayer,
      List.append_assoc, List.singleton_append]

theorem Router.addLayers_paths (router : Router) (ls : List Layer) :
    (router.addLayers ls).routes.map Route.path = router.routes.map Route.path := by
  induction ls generalizing router with
  | nil => rfl
  | cons l ls ih =>
    rw [addLayers, List.foldl_cons, ← addLayers, ih, addLayer, List.map_map]
    rfl

theorem Router.Every.imp {Q : Endpoint → Prop} {router : Router} (h : router.Every P)
    (hpq : ∀ e, P e → Q e) : router.Every Q :=
  every_iff.mpr fun e he => hpq e (every_iff.mp h e he)

theorem Methods.every_choice {m : Methods} (h : m.Every P) (method : String) :
    P (m.choice method).1 := by
  have hfind {name : String} {found : String × Endpoint}
      (hf : m.served.find? (·.1 == name) = some found) : P found.2 :=
    h.1 _ (List.mem_of_find?_eq_some hf)
  unfold choice
  split
  · rename_i e he
    simp only [endpoint?, Option.map_eq_some_iff] at he
    obtain ⟨found, hf, rfl⟩ := he
    split at hf
    · rw [Option.orElse_eq_orElse, Option.orElse_eq_or] at hf
      rcases Option.or_eq_some_iff.mp hf with hf | ⟨_, hf⟩
      · exact hfind hf
      · exact hfind hf
    · exact hfind hf
  · exact h.2

/-- A path is served by a route that fits it. -/
theorem Router.of_route? {router : Router} {path : List Char} {route : Route}
    (h : router.route? path = some route) :
    route ∈ router.routes ∧ route.pattern.fits path = true := by
  have hfold (routes : List Route) (best : Option Route) (route : Route)
      (h : routes.foldl Route.better best = some route) : route ∈ routes ∨ best = some route := by
    induction routes generalizing best with
    | nil => exact .inr h
    | cons next routes ih =>
      rcases ih _ h with hm | hb
      · exact .inl (List.mem_cons_of_mem _ hm)
      · unfold Route.better at hb
        split at hb
        · split at hb
          · exact .inl (by cases hb; simp)
          · exact .inr hb
        · exact .inl (by cases hb; simp)
  rcases hfold _ none route h with hm | hn
  · exact List.mem_filter.mp hm
  · cases hn

theorem Router.mem_of_route? {router : Router} {path : List Char} {route : Route}
    (h : router.route? path = some route) : route ∈ router.routes :=
  (of_route? h).1

/-- Only a path that no route fits is left to the fallback. -/
theorem Router.not_fits_of_route? {router : Router} {path : List Char}
    (h : router.route? path = none) : ∀ route ∈ router.routes, route.pattern.fits path = false := by
  have hfold (routes : List Route) (b : Route) : routes.foldl Route.better (some b) ≠ none := by
    induction routes generalizing b with
    | nil => exact nofun
    | cons next routes ih => exact ih _
  have hnone : (router.routes.filter fun route => route.pattern.fits path) = [] := by
    change (router.routes.filter fun route => route.pattern.fits path).foldl Route.better none =
      none at h
    cases hroutes : router.routes.filter fun route => route.pattern.fits path with
    | nil => rfl
    | cons b routes =>
      rw [hroutes] at h
      exact absurd h (hfold routes b)
  intro route hroute
  exact Bool.eq_false_iff.mpr (List.filter_eq_nil_iff.mp hnone route hroute)

theorem Router.every_choice {router : Router} (h : router.Every P) (q : Http.Request) :
    P (router.choice q).endpoint := by
  unfold choice
  split
  · rename_i route hr
    exact Methods.every_choice (h.1 route (mem_of_route? hr)) q.method
  · exact h.2

end TracedService.Server
