import TracedService.Proofs.Export.Labels

/-! What a cloud export carries. The token is always there; the project is there if it can stand in
a header at all, and a user in the endpoint puts a second authorization in front of the token. -/

namespace TracedService

namespace Outgoing

/-- The request is authorized by this token and bound to this project, and to nothing else. -/
structure Binds (out : Outgoing) (token project : String) : Prop where
  authorized : out.headers.values "authorization" = [bearer token]
  bound : out.headers.values "x-goog-user-project" = [Text.Utf8.encodeText project]

end Outgoing

namespace Exporter

variable {net : Network} {address : Http.Uri} {timeout : Nat} {project token : String}
  {tokens : TokenSource} {r : Resource} {d : Delivery} {out : Outgoing}

theorem fields_fixedHeaders (project : String) :
    (fixedHeaders [(Bootstrap.projectHeader, project)]).fields =
      if Http.HeaderValue.isValid (Text.Utf8.encodeText project) then
        [("x-goog-user-project", Text.Utf8.encodeText project)]
      else [] := by
  have hname : Http.HeaderName.read? Bootstrap.projectHeader = some "x-goog-user-project" := by
    decide +kernel
  simp only [fixedHeaders, List.foldl_cons, List.foldl_nil, Http.Headers.set, hname]
  split <;> rfl

theorem sent_of_canDeliver
    (hd : (http address timeout (fixedHeaders [(Bootstrap.projectHeader, project)])
      (some tokens)).CanDeliver net r d)
    (sent : d.sent = some out) (given : tokens.token net.tokens = .ok token) :
    ∃ u, Url.ofHost address.text = .ok u ∧
      out.headers.values "authorization" =
        Http.Headers.values ⟨Outgoing.basic u⟩ "authorization" ++ [Outgoing.bearer token] ∧
      out.headers.values "x-goog-user-project" =
        if Http.HeaderValue.isValid (Text.Utf8.encodeText project) then
          [Text.Utf8.encodeText project]
        else [] := by
  obtain ⟨batch, rfl⟩ := hd
  simp only [deliver, call_eq] at sent
  have hmade := Outgoing.sent_of_call sent
  simp only [outgoing, given, mapError_ok, Except.bind] at hmade
  obtain ⟨u, hu, hcaller⟩ := Outgoing.authorization_of_authorized hmade
  have hpasses := Outgoing.passes_of_authorized hmade
  refine ⟨u, hu, ?_, ?_⟩
  · rw [hcaller, request, fields_fixedHeaders]
    split <;> simp [Http.Headers.values, contentType]
  · rw [hpasses.headers _ (by decide), request, fields_fixedHeaders]
    split <;> simp [Http.Headers.values, contentType]

/-- An export is bound exactly if the project can stand in a header and the address names no
user. -/
theorem binds_iff_of_canDeliver
    (hd : (http address timeout (fixedHeaders [(Bootstrap.projectHeader, project)])
      (some tokens)).CanDeliver net r d)
    (sent : d.sent = some out) (given : tokens.token net.tokens = .ok token) :
    out.Binds token project ↔
      Http.HeaderValue.isValid (Text.Utf8.encodeText project) = true ∧
        ∃ u, Url.ofHost address.text = .ok u ∧ u.user? = none := by
  obtain ⟨u, hu, htoken, hproject⟩ := sent_of_canDeliver hd sent given
  have hauthorized : out.headers.values "authorization" = [Outgoing.bearer token] ↔
      u.user? = none := by
    rw [htoken, ← Outgoing.values_basic_eq_nil_iff]
    simp
  have hbound : out.headers.values "x-goog-user-project" = [Text.Utf8.encodeText project] ↔
      Http.HeaderValue.isValid (Text.Utf8.encodeText project) = true := by
    rw [hproject]
    split <;> simp_all
  constructor
  · intro h
    exact ⟨hbound.mp h.bound, u, hu, hauthorized.mp h.authorized⟩
  · rintro ⟨hvalid, u', hu', huser⟩
    obtain rfl : u = u' := Except.ok.inj (hu.symm.trans hu')
    exact ⟨hauthorized.mpr huser, hbound.mpr hvalid⟩

end Exporter

namespace Bootstrap

variable {b : Bootstrap} {s : Surroundings} {provider : Provider} {project : String}

def address? (b : Bootstrap) : Option Url :=
  match Endpoint.readUri (Endpoint.below b.endpoint) with
  | .ok uri => (Url.ofHost uri.text).toOption
  | .error _ => none

def Undirected (env : Environment) : Prop :=
  ∀ name : String, "OTEL_EXPORTER_OTLP_".toList <+: name.toList → env.text? name = none

theorem address_of_undirected (h : Undirected s.env) {protocol : ExportProtocol}
    {endpoint : String} :
    Endpoint.address s.env protocol endpoint = Endpoint.readUri (Endpoint.below endpoint) := by
  have htrace : s.env.text? Endpoint.traceVariable = none := h _ (by decide)
  have hgeneral : s.env.text? Endpoint.generalVariable = none := h _ (by decide)
  cases protocol with
  | grpc => simp [Endpoint.address, Endpoint.grpcAddress, htrace, hgeneral]
  | httpProtobuf => simp [Endpoint.address, Endpoint.httpAddress, htrace, hgeneral]

/-- The exporter of a cloud provider. -/
theorem exporter_of_cloud (built : (b.build s).result = .ok (some provider))
    (cloud : b.backend = .cloud project) : ∃ tokens uri, b.tokenSource s = .ok tokens ∧
      Endpoint.address s.env .httpProtobuf b.endpoint = .ok uri ∧
      provider.exporter = .http uri b.settings.exportTimeout
        (Exporter.fixedHeaders [(projectHeader, project)]) (some tokens) := by
  have hselected : ∀ backend, Selects b.settings backend → backend = .cloud project :=
    fun backend h => (Backend.resolve_eq_iff.mpr h).symm.trans cloud
  obtain ⟨x, search, keys, houtcome⟩ := exists_outcome b s
  obtain rfl := (build_of_outcome houtcome).1.symm.trans built
  cases houtcome with
  | debugOutput tool selected => cases hselected _ selected
  | collector endpoint p exporter tool selected known made => cases hselected _ selected
  | cloud project' tokens search exporter attributes tool selected credentials made detected =>
    cases hselected _ selected
    rw [cloudExporter, Exporter.authorized, Exporter.address] at made
    split at made
    · cases ha : Endpoint.address s.env .httpProtobuf b.endpoint with
      | error f =>
        rw [ha] at made
        cases made
      | ok uri =>
        rw [ha] at made
        cases made
        exact ⟨tokens, uri, (tokenSource_of_credentials credentials).1, rfl, rfl⟩
    · cases made

end Bootstrap

/-- Cloud exports, in whatever batches they go out and whatever becomes of them: with a token at
hand, each request that reaches the collector is authorized and bound to the configured project
exactly if the project can stand in a header and the endpoint names no user. The build looks at
neither. -/
theorem cloud_export_binds_iff {b : Bootstrap} {s : Surroundings} {provider : Provider}
    {project token : String} {tokens : TokenSource} {net : Network}
    (built : (b.build s).result = .ok (some provider)) (cloud : b.backend = .cloud project)
    (undirected : Bootstrap.Undirected s.env) (credentials : b.tokenSource s = .ok tokens)
    (given : tokens.token net.tokens = .ok token) (hs : List QueueEvent) :
    let (backlog, early) := (Backlog.ofProvider provider).run net hs
    let (_, _, late) := backlog.flush net
    ∀ d ∈ early ++ late, ∀ out, d.sent = some out →
      (out.Binds token project ↔
        Http.HeaderValue.isValid (Text.Utf8.encodeText project) = true ∧
          ∃ u, b.address? = some u ∧ u.user? = none) := by
  intro d hd out sent
  obtain ⟨tokens', uri, hcredentials, haddress, hexporter⟩ :=
    Bootstrap.exporter_of_cloud built cloud
  obtain rfl : tokens = tokens' := Except.ok.inj (credentials.symm.trans hcredentials)
  have hown := (Backlog.run_ownDeliveries net (Backlog.ofProvider provider) hs).trans
    (Backlog.flush_ownDeliveries net _)
  have hdelivery : provider.exporter.CanDeliver net provider.resource d := hown.own d hd
  rw [hexporter] at hdelivery
  rw [Exporter.binds_iff_of_canDeliver hdelivery sent given]
  rw [Bootstrap.address_of_undirected undirected] at haddress
  refine and_congr_right fun _ => exists_congr fun u => and_congr_left fun _ => ?_
  simp only [Bootstrap.address?, haddress]
  cases Url.ofHost uri.text <;> simp [Except.toOption]

def billed (project : String) : Bootstrap where
  identity := ⟨"orders", "test", "billing"⟩
  settings := { tool := "GCP", googleCloudProject := project }
  detector := ⟨"http://metadata", [], 1000⟩
  tokens := some (.given (.ok "ya29"))

def receptive : Network where
  collector := fun _ => .answered 200 [] true
  tokens := fun _ => .error ""

def billedUri : Http.Uri :=
  .absolute "https".toList "telemetry.googleapis.com".toList ⟨"/v1/traces".toList, none⟩

def billedAddress : Url where
  scheme := "https".toList
  host := some (.name "telemetry.googleapis.com".toList)
  path := "/v1/traces".toList

theorem readUri_billed :
    Endpoint.readUri (Endpoint.below Bootstrap.cloudEndpoint) = .ok billedUri :=
  ok_of_toOption (by decide +kernel)

theorem ofHost_billed : Url.ofHost billedUri.text = .ok billedAddress :=
  ok_of_toOption (by decide +kernel)

theorem undirected_empty : Bootstrap.Undirected {} :=
  fun _ _ => rfl

theorem address_billed (project : String) : (billed project).address? = some billedAddress := by
  have hendpoint : (billed project).endpoint = Bootstrap.cloudEndpoint := rfl
  rw [Bootstrap.address?, hendpoint, readUri_billed]
  exact congrArg Except.toOption ofHost_billed

/-- Such a service has its spans received, whatever the project is. -/
theorem billed_sends {project : String} {provider : Provider}
    (built : ((billed project).build {}).result = .ok (some provider))
    (cloud : (billed project).backend = .cloud project) (span : Span) :
    ∃ d out, d ∈ ((Backlog.ofProvider provider).run receptive [.ended span, .taken, .due]).2 ∧
      d.sent = some out ∧ d.received = [span] := by
  obtain ⟨tokens, uri, hcredentials, haddress, hexporter⟩ :=
    Bootstrap.exporter_of_cloud built cloud
  cases hcredentials
  rw [Bootstrap.address_of_undirected undirected_empty] at haddress
  obtain rfl : billedUri = uri := Except.ok.inj (readUri_billed.symm.trans haddress)
  have hdelivery : ((Backlog.ofProvider provider).run receptive [.ended span, .taken, .due]).2 =
      [{ provider.exporter.deliver receptive [span] with resource := provider.resource }] := rfl
  have htarget : billedAddress.withoutUser.overHttp = .ok billedAddress :=
    ok_of_toOption (by decide +kernel)
  have hmade (headers : Http.Headers) : ∃ out, Exporter.outgoing receptive billedUri headers
      (some (.given (.ok "ya29"))) = .ok out :=
    ⟨_, Outgoing.authorized_of_address ofHost_billed htarget (by decide +kernel)⟩
  obtain ⟨out, hout⟩ := hmade (Exporter.fixedHeaders [(Bootstrap.projectHeader, project)])
  have hcall : Exporter.call receptive billedUri
      (Exporter.fixedHeaders [(Bootstrap.projectHeader, project)])
      (some (.given (.ok "ya29"))) = ⟨.ok ⟨200, [], none⟩, some out⟩ := by
    rw [Exporter.call_eq, hout]
    rfl
  rw [hdelivery, hexporter]
  refine ⟨_, out, List.mem_singleton.mpr rfl, ?_, ?_⟩
  · exact congrArg Call.sent hcall
  · rw [Exporter.deliver, hcall]
    rfl

private theorem provider_of_isSome {b : Bootstrap} {s : Surroundings}
    (h : (b.build s).result.toOption.join.isSome = true) :
    ∃ provider, (b.build s).result = .ok (some provider) := by
  cases hr : (b.build s).result with
  | error f => simp [hr, Except.toOption] at h
  | ok built =>
    cases built with
    | none => simp [hr, Except.toOption] at h
    | some provider => exact ⟨provider, rfl⟩

/-- A plain project: the export is bound to it. -/
theorem acme_export_bound :
    ∃ provider d out, ((billed "acme").build {}).result = .ok (some provider) ∧
      d ∈ ((Backlog.ofProvider provider).run receptive
        [.ended (Emission.selfTest.span 1 1), .taken, .due]).2 ∧
      d.sent = some out ∧ out.Binds "ya29" "acme" := by
  have cloud : (billed "acme").backend = .cloud "acme" := by decide +kernel
  have hvalid : Http.HeaderValue.isValid (Text.Utf8.encodeText "acme") = true := by decide +kernel
  have huser : billedAddress.user? = none := by decide +kernel
  obtain ⟨provider, built⟩ := provider_of_isSome (b := billed "acme") (s := {}) (by decide +kernel)
  obtain ⟨d, out, hd, sent, -⟩ := billed_sends built cloud (Emission.selfTest.span 1 1)
  refine ⟨provider, d, out, built, hd, sent, ?_⟩
  exact (cloud_export_binds_iff built cloud undirected_empty rfl rfl _ d
    (List.mem_append_left _ hd) out sent).mpr ⟨hvalid, billedAddress, address_billed _, huser⟩

/-- A project with a line end: the span is received without a project. -/
theorem unbound_export_received :
    ∃ provider d out, ((billed "acme\nprod").build {}).result = .ok (some provider) ∧
      d ∈ ((Backlog.ofProvider provider).run receptive
        [.ended (Emission.selfTest.span 1 1), .taken, .due]).2 ∧
      d.sent = some out ∧ d.received = [Emission.selfTest.span 1 1] ∧
      out.headers.values "x-goog-user-project" = [] ∧ ¬ out.Binds "ya29" "acme\nprod" := by
  have cloud : (billed "acme\nprod").backend = .cloud "acme\nprod" := by decide +kernel
  have hinvalid : Http.HeaderValue.isValid (Text.Utf8.encodeText "acme\nprod") = false := by
    decide +kernel
  obtain ⟨provider, built⟩ :=
    provider_of_isSome (b := billed "acme\nprod") (s := {}) (by decide +kernel)
  obtain ⟨d, out, hd, sent, hreceived⟩ := billed_sends built cloud (Emission.selfTest.span 1 1)
  obtain ⟨tokens, uri, hcredentials, -, hexporter⟩ := Bootstrap.exporter_of_cloud built cloud
  cases hcredentials
  have hdelivery : provider.exporter.CanDeliver receptive provider.resource d :=
    (Backlog.run_ownDeliveries receptive (Backlog.ofProvider provider) _).own d hd
  rw [hexporter] at hdelivery
  obtain ⟨u, -, -, hproject⟩ := Exporter.sent_of_canDeliver hdelivery sent rfl
  rw [hinvalid] at hproject
  refine ⟨provider, d, out, built, hd, sent, hreceived, hproject, fun hbinds => ?_⟩
  rw [hbinds.bound] at hproject
  cases hproject

end TracedService
