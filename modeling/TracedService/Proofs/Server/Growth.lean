import TracedService.Proofs.Fallible
import TracedService.Proofs.Server.Serving

/-! How routers come about: by offering methods, by nesting routers and by setting a fallback. What
is added touches no path but its own. -/

namespace TracedService.Server

variable {P : Endpoint → Prop}

/-- What each step keeps, the fold keeps. -/
private theorem of_foldlM {ε α β : Type} {Q : β → Prop} {f : β → α → Except ε β} {xs : List α}
    {b b' : β} (step : ∀ x ∈ xs, ∀ c c', Q c → f c x = .ok c' → Q c') (before : Q b)
    (h : xs.foldlM f b = .ok b') : Q b' := by
  induction xs generalizing b with
  | nil =>
    cases h
    exact before
  | cons x xs ih =>
    rw [List.foldlM_cons] at h
    obtain ⟨c, hx, h⟩ := bind_eq_ok.mp h
    exact ih (fun y hy => step y (List.mem_cons_of_mem _ hy))
      (step x List.mem_cons_self b c before hx) h

/-- What one step brings about and every step keeps is there at the end. -/
private theorem of_mem_foldlM {ε α β : Type} {Q : β → Prop} {f : β → α → Except ε β} {xs : List α}
    {x : α} {b b' : β} (hx : x ∈ xs) (bring : ∀ c c', f c x = .ok c' → Q c')
    (keep : ∀ y ∈ xs, ∀ c c', Q c → f c y = .ok c' → Q c') (h : xs.foldlM f b = .ok b') : Q b' := by
  induction xs generalizing b with
  | nil => cases hx
  | cons y ys ih =>
    rw [List.foldlM_cons] at h
    obtain ⟨c, hy, hrest⟩ := bind_eq_ok.mp h
    have keep' : ∀ z ∈ ys, ∀ c c', Q c → f c z = .ok c' → Q c' :=
      fun z hz => keep z (List.mem_cons_of_mem _ hz)
    rcases List.mem_cons.mp hx with rfl | hx
    · exact of_foldlM keep' (bring b c hy) hrest
    · exact ih hx keep' hrest

private theorem of_mem_mapM {ε α β : Type} {f : α → Except ε β} {xs : List α} {ys : List β}
    (h : xs.mapM f = .ok ys) : ∀ y ∈ ys, ∃ x ∈ xs, f x = .ok y := by
  induction xs generalizing ys with
  | nil =>
    cases h
    simp
  | cons x xs ih =>
    rw [List.mapM_cons] at h
    obtain ⟨y, hx, h⟩ := bind_eq_ok.mp h
    obtain ⟨ys', hxs, h⟩ := bind_eq_ok.mp h
    cases h
    intro z hz
    rcases List.mem_cons.mp hz with rfl | hz
    · exact ⟨x, by simp, hx⟩
    · obtain ⟨x', hx', he⟩ := ih hxs z hz
      exact ⟨x', by simp [hx'], he⟩

/-- What each member keeps, the list keeps. -/
private theorem map_of_mapM {ε α β : Type} {f : α → Except ε α} {g : α → β} {xs ys : List α}
    (keep : ∀ x y, f x = .ok y → g y = g x) (h : xs.mapM f = .ok ys) : ys.map g = xs.map g := by
  induction xs generalizing ys with
  | nil =>
    cases h
    rfl
  | cons x xs ih =>
    rw [List.mapM_cons] at h
    obtain ⟨y, hx, h⟩ := bind_eq_ok.mp h
    obtain ⟨ys', hxs, h⟩ := bind_eq_ok.mp h
    cases h
    rw [List.map_cons, List.map_cons, keep x y hx, ih hxs]

theorem Methods.Every.merge {path : String} {a b m : Methods} (ha : a.Every P) (hb : b.Every P)
    (h : a.merge path b = .ok m) : m.Every P := by
  have hserved : ∀ e ∈ a.served ++ b.served, P e.2 := by
    intro e he
    rcases List.mem_append.mp he with he | he
    · exact ha.1 e he
    · exact hb.1 e he
  simp only [Methods.merge, bind, Except.bind, pure, Except.pure, throw, throwThe,
    MonadExceptOf.throw] at h
  by_cases hc : (!a.standard && !b.standard) = true
  · rw [if_pos hc] at h
    split at h
    all_goals cases h
  · rw [if_neg hc] at h
    split at h
    · cases h
    · cases h
      cases a.standard
      · exact ⟨hserved, ha.2⟩
      · exact ⟨hserved, hb.2⟩

namespace Router

variable {router next inner : Router} {path place : String} {m : Methods}

/-- A route with what is offered under its path. -/
def merged (path : String) (m : Methods) (route : Route) : Except RouterFault Route :=
  if route.path = path then do return { route with methods := ← route.methods.merge path m }
  else pure route

theorem of_merged {route old : Route} (h : merged path m old = .ok route) :
    route = old ∨ old.path = path ∧ route.path = old.path ∧ route.pattern = old.pattern ∧
      old.methods.merge path m = .ok route.methods := by
  unfold merged at h
  split at h
  · rename_i hpath
    obtain ⟨methods, hmerged, h⟩ := bind_eq_ok.mp h
    cases h
    exact .inr ⟨hpath, rfl, rfl, hmerged⟩
  · cases h
    exact .inl rfl

theorem of_offer (h : router.offer path m = .ok next) :
    next.fallback = router.fallback ∧ ∃ pattern, Pattern.read? path = some pattern ∧
      (path ∈ router.routes.map Route.path ∧ router.routes.mapM (merged path m) = .ok next.routes ∨
        next.routes = router.routes ++ [⟨path, pattern, m⟩]) := by
  unfold Router.offer at h
  split at h
  · rename_i pattern hpattern
    split at h
    · rename_i hpath
      obtain ⟨routes, hroutes, h⟩ := bind_eq_ok.mp h
      cases h
      exact ⟨rfl, pattern, hpattern, .inl ⟨by simpa using hpath, hroutes⟩⟩
    · split at h
      · cases h
      · cases h
        exact ⟨rfl, pattern, hpattern, .inr rfl⟩
  · cases h

/-- A route that comes of an offer was there before, or it is the route of that path, with what is
offered alone or with that and what it had. -/
theorem offer_cases (h : router.offer path m = .ok next) :
    next.fallback = router.fallback ∧ ∀ route ∈ next.routes,
      route ∈ router.routes ∨ route.path = path ∧ (route.methods = m ∨
        ∃ old ∈ router.routes, old.path = path ∧ old.methods.merge path m = .ok route.methods) := by
  obtain ⟨hfallback, pattern, -, ⟨-, hroutes⟩ | hroutes⟩ := of_offer h
  · refine ⟨hfallback, fun route hroute => ?_⟩
    obtain ⟨old, hold, hmerged⟩ := of_mem_mapM hroutes route hroute
    rcases of_merged hmerged with rfl | ⟨hpath, hsame, -, hmerge⟩
    · exact .inl hold
    · exact .inr ⟨hsame.trans hpath, .inr ⟨old, hold, hpath, hmerge⟩⟩
  · refine ⟨hfallback, fun route hroute => ?_⟩
    rw [hroutes] at hroute
    rcases List.mem_append.mp hroute with hroute | hroute
    · exact .inl hroute
    · rw [List.mem_singleton.mp hroute]
      exact .inr ⟨rfl, .inl rfl⟩

/-- The paths that are offered, with their patterns. -/
def table (router : Router) : List (String × Pattern) :=
  router.routes.map fun route => (route.path, route.pattern)

theorem table_offer (h : router.offer path m = .ok next) :
    ∃ pattern, Pattern.read? path = some pattern ∧
      (path ∈ router.routes.map Route.path ∧ next.table = router.table ∨
        next.table = router.table ++ [(path, pattern)]) := by
  obtain ⟨-, pattern, hpattern, ⟨hpath, hroutes⟩ | hroutes⟩ := of_offer h
  · refine ⟨pattern, hpattern, .inl ⟨hpath, map_of_mapM ?_ hroutes⟩⟩
    intro old route hmerged
    rcases of_merged hmerged with rfl | ⟨-, hsame, hpattern, -⟩
    · rfl
    · rw [hsame, hpattern]
  · refine ⟨pattern, hpattern, .inr ?_⟩
    rw [table, hroutes, List.map_append]
    rfl

theorem Every.offer (hr : router.Every P) (hm : m.Every P) (h : router.offer path m = .ok next) :
    next.Every P := by
  obtain ⟨hfallback, hroutes⟩ := offer_cases h
  refine ⟨?_, hfallback ▸ hr.2⟩
  intro route hroute
  rcases hroutes route hroute with hold | ⟨-, hnew | ⟨old, hold, -, hmerged⟩⟩
  · exact hr.1 route hold
  · exact hnew ▸ hm
  · exact (hr.1 old hold).merge hm hmerged

theorem of_nest {Q : Router → Prop} (step : ∀ route ∈ inner.routes, ∀ r r', Q r →
      r.offer (joined place route.path) (route.methods.addLayer (.below place.toList)) = .ok r' →
        Q r')
    (before : Q router) (h : router.nest place inner = .ok next) : Q next := by
  unfold Router.nest at h
  split at h
  · exact of_foldlM step before h
  · cases h

/-- What stands below a place sees its layer; the fallback of the inner router is left behind. -/
theorem Every.nest (hr : router.Every P) (hi : ∀ route ∈ inner.routes, route.methods.Every P)
    (hl : ∀ e, P e → P (e.addLayer (.below place.toList)))
    (h : router.nest place inner = .ok next) : next.Every P := by
  refine of_nest (fun route hroute r r' hr ho => Every.offer hr ?_ ho) hr h
  rw [Methods.every_addLayer]
  exact ⟨fun e he => hl _ ((hi route hroute).1 e he), hl _ (hi route hroute).2⟩

theorem Every.withFallback {h : Handler} (hr : router.Every P) (hh : P ⟨h, []⟩) :
    (router.withFallback h).Every P :=
  ⟨hr.1, hh⟩

end Router

/-- What may be added to a router. -/
inductive Addition where
  | offer (path : String) (m : Methods)
  | nest (place : String) (inner : Router)
  | fallback (h : Handler)

namespace Addition

def apply (router : Router) : Addition → Except RouterFault Router
  | offer path m => router.offer path m
  | nest place inner => router.nest place inner
  | fallback h => .ok (router.withFallback h)

/-- The paths that come with it, and what they offer. -/
def offers : Addition → List (String × Methods)
  | offer path m => [(path, m)]
  | nest place inner => inner.routes.map fun route =>
    (Router.joined place route.path, route.methods.addLayer (.below place.toList))
  | fallback _ => []

def isFallback : Addition → Bool
  | fallback _ => true
  | _ => false

end Addition

namespace Router

def extend (router : Router) (later : List Addition) : Except RouterFault Router :=
  later.foldlM Addition.apply router

variable {router whole : Router} {later : List Addition}

theorem of_apply {Q : Router → Prop} {a : Addition}
    (offers : ∀ o ∈ a.offers, ∀ r r', Q r → r.offer o.1 o.2 = .ok r' → Q r')
    (fallbacks : ∀ h, a = .fallback h → ∀ r, Q r → Q (r.withFallback h))
    (before : Q router) (h : a.apply router = .ok whole) : Q whole := by
  cases a with
  | offer path m => exact offers (path, m) List.mem_cons_self _ _ before h
  | nest place inner =>
    refine of_nest (Q := Q) (fun route hroute => ?_) before h
    exact offers (joined place route.path, route.methods.addLayer (.below place.toList))
      (List.mem_map.mpr ⟨route, hroute, rfl⟩)
  | fallback handler =>
    cases h
    exact fallbacks handler rfl _ before

theorem of_extend {Q : Router → Prop}
    (offers : ∀ o ∈ later.flatMap Addition.offers, ∀ r r', Q r → r.offer o.1 o.2 = .ok r' → Q r')
    (fallbacks : ∀ h, .fallback h ∈ later → ∀ r, Q r → Q (r.withFallback h))
    (before : Q router) (h : router.extend later = .ok whole) : Q whole := by
  refine of_foldlM ?_ before h
  intro a ha r r' hr happly
  refine of_apply (Q := Q) ?_ ?_ hr happly
  · exact fun o ho => offers o (List.mem_flatMap.mpr ⟨a, ha, ho⟩)
  · rintro handler rfl
    exact fallbacks handler ha

/-- What an offer brings about and every offer and fallback keeps is there at the end. -/
theorem of_mem_extend {Q : Router → Prop} {o : String × Methods}
    (ho : o ∈ later.flatMap Addition.offers)
    (bring : ∀ r r' : Router, r.offer o.1 o.2 = .ok r' → Q r')
    (keep : ∀ (o' : String × Methods) (r r' : Router), Q r → r.offer o'.1 o'.2 = .ok r' → Q r')
    (fallbacks : ∀ (h : Handler) (r : Router), Q r → Q (r.withFallback h))
    (h : router.extend later = .ok whole) : Q whole := by
  obtain ⟨a, ha, ho⟩ := List.mem_flatMap.mp ho
  refine of_mem_foldlM ha ?_ ?_ h
  · intro r r' happly
    cases a with
    | offer path m =>
      cases List.mem_singleton.mp ho
      exact bring _ _ happly
    | nest place inner =>
      obtain ⟨route, hroute, rfl⟩ := List.mem_map.mp ho
      have hnest : r.nest place inner = .ok r' := happly
      unfold Router.nest at hnest
      split at hnest
      · refine of_mem_foldlM hroute bring ?_ hnest
        intro other _ c c' hc hoffer
        exact keep (joined place other.path, _) c c' hc hoffer
      · cases hnest
    | fallback handler => cases ho
  · intro a' _ r r' hr happly
    exact of_apply (Q := Q) (fun o' _ => keep o') (fun handler _ => fallbacks handler) hr happly

theorem mem_of_extend (h : router.extend later = .ok whole) : ∀ route ∈ whole.routes,
    route.path ∉ (later.flatMap Addition.offers).map Prod.fst → route ∈ router.routes := by
  refine of_extend (Q := fun r => ∀ route ∈ r.routes,
    route.path ∉ (later.flatMap Addition.offers).map Prod.fst → route ∈ router.routes)
    ?_ (fun _ _ _ hr => hr) (fun route hroute _ => hroute) h
  intro o ho r r' hr hoffer route hroute hpath
  rcases (offer_cases hoffer).2 route hroute with hold | ⟨hnew, -⟩
  · exact hr route hold hpath
  · exact absurd (hnew ▸ List.mem_map_of_mem ho) hpath

/-- Under a new path there is nothing but what is added. -/
theorem every_of_extend (hm : ∀ o ∈ later.flatMap Addition.offers, o.2.Every P)
    (h : router.extend later = .ok whole) : ∀ route ∈ whole.routes,
    route.path ∉ router.routes.map Route.path → route.methods.Every P := by
  refine of_extend (Q := fun r => ∀ route ∈ r.routes,
    route.path ∉ router.routes.map Route.path → route.methods.Every P)
    ?_ (fun _ _ _ hr => hr) (fun route hroute hpath => absurd (List.mem_map_of_mem hroute) hpath) h
  intro o ho r r' hr hoffer route hroute hpath
  rcases (offer_cases hoffer).2 route hroute with
    hold | ⟨hnew, hm' | ⟨old, hold, holdPath, hmerged⟩⟩
  · exact hr route hold hpath
  · exact hm' ▸ hm o ho
  · exact (hr old hold (by rwa [holdPath, ← hnew])).merge (hm o ho) hmerged

/-- What is built from nothing offers what was offered, each path with its pattern, and no more. -/
theorem table_of_extend (h : ({} : Router).extend later = .ok whole) :
    (∀ e ∈ whole.table, Pattern.read? e.1 = some e.2 ∧
      e.1 ∈ (later.flatMap Addition.offers).map Prod.fst) ∧
    ∀ path ∈ (later.flatMap Addition.offers).map Prod.fst, path ∈ whole.table.map Prod.fst := by
  constructor
  · refine of_extend (Q := fun r => ∀ e ∈ r.table, Pattern.read? e.1 = some e.2 ∧
      e.1 ∈ (later.flatMap Addition.offers).map Prod.fst) ?_ (fun _ _ _ hr => hr)
      (fun _ he => absurd he List.not_mem_nil) h
    intro o ho r r' hr hoffer e he
    obtain ⟨pattern, hpattern, ⟨-, htable⟩ | htable⟩ := table_offer hoffer
    · exact hr e (htable ▸ he)
    · rw [htable] at he
      rcases List.mem_append.mp he with he | he
      · exact hr e he
      · rw [List.mem_singleton.mp he]
        exact ⟨hpattern, List.mem_map_of_mem ho⟩
  · intro path hpath
    obtain ⟨o, ho, rfl⟩ := List.mem_map.mp hpath
    refine of_mem_extend (Q := fun r => o.1 ∈ r.table.map Prod.fst) ho ?_ ?_ (fun _ _ hr => hr) h
    · intro r r' hoffer
      obtain ⟨pattern, -, ⟨hold, htable⟩ | htable⟩ := table_offer hoffer
      · rw [htable, table, List.map_map]
        exact hold
      · simp [htable]
    · intro o' r r' hr hoffer
      obtain ⟨pattern, -, ⟨-, htable⟩ | htable⟩ := table_offer hoffer
      · rwa [htable]
      · rw [htable, List.map_append]
        exact List.mem_append_left _ hr

/-- What holds of every endpoint that is added holds of every endpoint, if it holds of handlers
without layers. -/
theorem every_of_built (hm : ∀ o ∈ later.flatMap Addition.offers, o.2.Every P)
    (hbare : ∀ handler : Handler, P ⟨handler, []⟩)
    (h : ({} : Router).extend later = .ok whole) : whole.Every P :=
  of_extend (Q := Every P) (fun o ho _ _ hr hoffer => hr.offer (hm o ho) hoffer)
    (fun handler _ _ hr => hr.withFallback (hbare handler))
    ⟨fun _ hroute => absurd hroute List.not_mem_nil, hbare _⟩ h

theorem fallback_of_extend (hnone : ∀ a ∈ later, a.isFallback = false)
    (h : router.extend later = .ok whole) : whole.fallback = router.fallback := by
  refine of_extend (Q := fun r => r.fallback = router.fallback) ?_ ?_ rfl h
  · intro o ho r r' hr hoffer
    exact (offer_cases hoffer).1.trans hr
  · intro handler hmem
    cases hnone _ hmem

end Router

end TracedService.Server
