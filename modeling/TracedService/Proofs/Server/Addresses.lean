import TracedService.Proofs.Http.Uri
import TracedService.Proofs.Server.Content

/-! The two attributes in which a server span tells the address of its request: the target, and the
whole URI. Main statement: `instrument_addresses`, they are one text where the request names no
host, and else the target ends the URI. -/

namespace TracedService.Server

variable {t : Tracing} {i : Arrival} {r : Recorder}

/-- The address is told once as a target and once as a whole. -/
theorem Layer.addresses_servedSpan (status : Nat)
    (hvalid : (r.nextContext t (Hop.extract i.current i.request.headers)).valid = true) :
    (servedSpan t i r status).attributes.filter (·.1 == targetKey) =
        [(targetKey, .text (String.ofList i.request.uri.target))] ∧
      (servedSpan t i r status).attributes.filter (·.1 == urlKey) =
        [(urlKey, .text (String.ofList i.request.uri.text))] := by
  have htarget : ∀ key ∈ [methodKey, serverKey, routeKey, urlKey, statusKey],
      (key == targetKey) = false := by decide
  have hurl : ∀ key ∈ [methodKey, targetKey, serverKey, routeKey, statusKey],
      (key == urlKey) = false := by decide
  simp only [List.forall_mem_cons] at htarget hurl
  rw [attributes_servedSpan status hvalid, openingAttributes]
  cases i.route with
  | none => simp [htarget, hurl]
  | some name => simp [htarget, hurl]

/-- Of a sampled request the server span tells the address that was received, wherever the router
has the request served. A target is told twice, as path and query, without a fragment; of an address
with scheme and host the target is what is written at the end. -/
theorem instrument_addresses (t : Tracing) {router : Router}
    (bare : router.Every Endpoint.Untraced) (ids : t.ids.Nonzero) {foreign : Bool}
    {received : List Char} (q : Http.Request) (reads : Http.Uri.read foreign received = .ok q.uri)
    (current : Context) (around : current.Valid) (r : Recorder)
    (sampled : r.sampled t (Hop.extract current q.headers) = true) :
    let made := router.instrument.serve t q current r
    ∃ children span target url, made.2.ended = r.ended ++ children ++ [span] ∧
      (∀ s ∈ children, s.scope ≠ Layer.scope) ∧ span.scope = Layer.scope ∧
      span.attributes.filter (·.1 == Layer.targetKey) = [(Layer.targetKey, .text target)] ∧
      span.attributes.filter (·.1 == Layer.urlKey) = [(Layer.urlKey, .text url)] ∧
      (∀ p, q.uri = .origin p → target = url ∧ url.toList = p.path ++ p.queryText ∧
        p.path ++ p.queryText = received.takeWhile (· != '#')) ∧
      ∀ name host p, q.uri = .absolute name host p → target.toList <:+ url.toList := by
  intro made
  let i := (router.choice q).arrival q current
  have hvalid := valid_nextContext ids (valid_extract around q.headers) sampled
  obtain ⟨htarget, hurl⟩ := Layer.addresses_servedSpan (i := i) made.1.status hvalid
  refine ⟨_, _, _, _, ended_of_sampled bare q r sampled, fun s => scope_of_mem_childSpans,
    congrArg (·.1) (Layer.head_servedSpan ..), htarget, hurl, ?_, ?_⟩
  · intro p hp
    obtain ⟨htext, hkept⟩ := Http.Uri.kept_of_read_origin (hp ▸ reads)
    have hurlText : i.request.uri.text = p.path ++ p.queryText := by
      rw [show i.request.uri = .origin p from hp, Http.Uri.text]
    have htargetText : i.request.uri.target = p.path ++ p.queryText := by
      rw [show i.request.uri = .origin p from hp, Http.Uri.target, htext]
    rw [hurlText, htargetText]
    exact ⟨rfl, String.toList_ofList, hkept⟩
  · intro name host p hp
    rw [String.toList_ofList, String.toList_ofList, show i.request.uri = _ from hp]
    exact Http.Uri.target_suffix_text name host p

/-- A target with a fragment is served below a place, and an address without a path by the
fallback. -/
theorem instrument_addresses_shop :
    let t : Tracing := ⟨.alwaysOn, fun _ => 1, fun _ => 1⟩
    let shop : Router := { routes := [⟨"/orders/\x7bid\x7d",
      "/orders/".toList.map .literal ++ [.segment "id".toList],
      .one "GET" { children := ["query"], reply := fun _ => ⟨200, [], none⟩ }⟩] }
    let order := Http.Uri.origin ⟨"/shop/orders/7".toList, some "full".toList⟩
    let front := Http.Uri.absolute "http".toList "shop.test".toList ⟨[], some "full".toList⟩
    ∃ router, Router.nest {} "/shop" shop = .ok router ∧
      Http.Uri.read true "/shop/orders/7?full#top".toList = .ok order ∧
      Http.Uri.read true "HTTP://shop.test?full".toList = .ok front ∧
      (∃ children span,
        (router.instrument.serve t ⟨"GET", order, {}, []⟩ {} {}).2.ended = children ++ [span] ∧
        span.attributes.filter (·.1 == Layer.targetKey) =
          [(Layer.targetKey, .text "/shop/orders/7?full")] ∧
        span.attributes.filter (·.1 == Layer.urlKey) =
          [(Layer.urlKey, .text "/shop/orders/7?full")]) ∧
      ∃ children span target url,
        (router.instrument.serve t ⟨"GET", front, {}, []⟩ {} {}).2.ended = children ++ [span] ∧
        span.attributes.filter (·.1 == Layer.targetKey) = [(Layer.targetKey, .text target)] ∧
        span.attributes.filter (·.1 == Layer.urlKey) = [(Layer.urlKey, .text url)] ∧
        target.toList <:+ url.toList := by
  intro t shop order front
  obtain ⟨router, hnested⟩ : ∃ router, Router.nest {} "/shop" shop = .ok router := by
    have hjoined : Router.joined "/shop" "/orders/\x7bid\x7d" = "/shop/orders/\x7bid\x7d" := by
      decide +kernel
    have hplace : Router.isPlace "/shop" = true := by
      decide +kernel
    have horders : Pattern.read? "/shop/orders/\x7bid\x7d" =
        some ("/shop/orders/".toList.map .literal ++ [.segment "id".toList]) := by
      decide +kernel
    simp only [shop, Router.nest, hplace, if_true, List.foldlM_cons, List.foldlM_nil, hjoined,
      Router.offer, horders]
    exact ⟨_, rfl⟩
  have hbare : router.Every Endpoint.Untraced := by
    have hnone : Router.Every Endpoint.Untraced {} :=
      ⟨fun _ h => absurd h List.not_mem_nil, fun _ h => absurd h List.not_mem_nil⟩
    refine hnone.nest ?_ ?_ hnested
    · simp [shop, Methods.Every, Methods.one, Endpoint.Untraced]
    · intro e he l hl
      rcases List.mem_append.mp hl with hl | hl
      · exact he l hl
      · exact ⟨_, List.mem_singleton.mp hl⟩
  have htrace : (1 : TraceId) ≠ 0 := by decide
  have hspanId : (1 : SpanId) ≠ 0 := by decide
  have hids : t.ids.Nonzero := ⟨fun _ => htrace, fun _ => hspanId⟩
  have haround : Context.Valid {} := by
    intro a ha
    cases ha
  have horder : Http.Uri.read true "/shop/orders/7?full#top".toList = .ok order := by
    rfl
  have hfront : Http.Uri.read true "HTTP://shop.test?full".toList = .ok front := by
    rfl
  refine ⟨router, hnested, horder, hfront, ?_, ?_⟩
  · obtain ⟨children, span, target, url, hended, -, -, htarget, hurl, hsame, -⟩ :=
      instrument_addresses t hbare hids ⟨"GET", order, {}, []⟩ horder {} haround {} rfl
    obtain ⟨rfl, htext, -⟩ := hsame _ rfl
    obtain rfl : target = "/shop/orders/7?full" := String.ext htext
    exact ⟨children, span, hended, htarget, hurl⟩
  · obtain ⟨children, span, target, url, hended, -, -, htarget, hurl, -, hends⟩ :=
      instrument_addresses t hbare hids ⟨"GET", front, {}, []⟩ hfront {} haround {} rfl
    exact ⟨children, span, target, url, hended, htarget, hurl, hends _ _ _ rfl⟩

end TracedService.Server
