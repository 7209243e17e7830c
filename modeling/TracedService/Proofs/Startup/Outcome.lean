import TracedService.Startup.Build

/-! What a build comes to. The settings, the credentials, the endpoint and the platform can be at
fault all at once; the order of the checks decides which fault is told and whether the metadata
server is asked. -/

namespace TracedService

/-- The word stands in the tool text. -/
def TracingSettings.Mentions (s : TracingSettings) (word : String) : Prop :=
  word.toList <:+: s.tool.toList

/-- The backend that settings ask for: the first whose keyword is mentioned, where the cloud counts
only with a project. -/
inductive Selects (s : TracingSettings) : Backend → Prop
  | cloud (word : s.Mentions "GCP") (project : s.googleCloudProject ≠ "") :
      Selects s (.cloud s.googleCloudProject)
  | debugOutput (cloudless : ¬ (s.Mentions "GCP" ∧ s.googleCloudProject ≠ ""))
      (word : s.Mentions "STDOUT") : Selects s .debugOutput
  | collector (cloudless : ¬ (s.Mentions "GCP" ∧ s.googleCloudProject ≠ ""))
      (silent : ¬ s.Mentions "STDOUT") (word : s.Mentions "JAEGER") :
      Selects s (.collector s.jaegerEndpoint)
  | disabled (cloudless : ¬ (s.Mentions "GCP" ∧ s.googleCloudProject ≠ ""))
      (silent : ¬ s.Mentions "STDOUT") (alone : ¬ s.Mentions "JAEGER") : Selects s .disabled

theorem Backend.mentions_iff {s : TracingSettings} {word : String} :
    Backend.mentions s word = true ↔ s.Mentions word :=
  Text.occurs_iff

theorem Backend.resolve_eq_iff {s : TracingSettings} {backend : Backend} :
    Backend.resolve s = backend ↔ Selects s backend := by
  have hcloud : (Backend.mentions s Backend.cloudKeyword && !s.googleCloudProject.isEmpty) = true ↔
      s.Mentions "GCP" ∧ s.googleCloudProject ≠ "" := by
    rw [Bool.and_eq_true, mentions_iff]
    simp [cloudKeyword]
  have hdebug : Backend.mentions s Backend.debugKeyword = true ↔ s.Mentions "STDOUT" := mentions_iff
  have hcollector : Backend.mentions s Backend.collectorKeyword = true ↔ s.Mentions "JAEGER" :=
    mentions_iff
  constructor
  · rintro rfl
    unfold resolve
    split
    · rename_i h
      exact .cloud (hcloud.mp h).1 (hcloud.mp h).2
    · rename_i hc
      rw [hcloud] at hc
      split
      · rename_i h
        exact .debugOutput hc (hdebug.mp h)
      · rename_i hd
        rw [hdebug] at hd
        split
        · rename_i h
          exact .collector hc hd (hcollector.mp h)
        · rename_i h
          exact .disabled hc hd ((not_congr hcollector).mp h)
  · intro h
    unfold resolve
    cases h with
    | cloud word project => rw [if_pos (hcloud.mpr ⟨word, project⟩)]
    | debugOutput cloudless word =>
      rw [if_neg ((not_congr hcloud).mpr cloudless), if_pos (hdebug.mpr word)]
    | collector cloudless silent word =>
      rw [if_neg ((not_congr hcloud).mpr cloudless), if_neg ((not_congr hdebug).mpr silent),
        if_pos (hcollector.mpr word)]
    | disabled cloudless silent alone =>
      rw [if_neg ((not_congr hcloud).mpr cloudless), if_neg ((not_congr hdebug).mpr silent),
        if_neg ((not_congr hcollector).mpr alone)]

namespace Exporter

/-- The endpoint names one of the two schemes. -/
def HasScheme (endpoint : String) : Prop :=
  "http://".toList <+: endpoint.toList ∨ "https://".toList <+: endpoint.toList

theorem isValid_iff {endpoint : String} :
    Endpoint.isValid endpoint = true ↔ HasScheme endpoint := by
  simp [Endpoint.isValid, Endpoint.schemes, Text.startsWith_iff, HasScheme]

/-- Why no exporter is made for an endpoint: it has no scheme, or else the address that results from
it cannot be read. -/
inductive Refuses (env : Environment) (protocol : ExportProtocol) (endpoint : String) :
    StartupFault → Prop
  | scheme (h : ¬ HasScheme endpoint) : Refuses env protocol endpoint (.badEndpoint endpoint)
  | address (f : Http.UriFault) (h : HasScheme endpoint)
      (bad : Endpoint.address env protocol endpoint = .error f) :
      Refuses env protocol endpoint (.exporter (.badAddress f))

variable {env : Environment} {protocol : ExportProtocol} {endpoint : String}

theorem address_of_refuses {f : StartupFault} (h : Refuses env protocol endpoint f) :
    address env protocol endpoint = .error f := by
  unfold address
  cases h with
  | scheme h => rw [if_neg ((not_congr isValid_iff).mpr h)]
  | address f h bad =>
    rw [if_pos (isValid_iff.mpr h), bad]
    rfl

theorem collector_of_refuses {f : StartupFault} {timeout : Nat} {fields : List (String × String)}
    (h : Refuses env protocol endpoint f) :
    collector env protocol endpoint timeout fields = .error f := by
  rw [collector, address_of_refuses h]
  rfl

theorem authorized_of_refuses {f : StartupFault} {timeout : Nat} {fields : List (String × String)}
    {tokens : TokenSource} (h : Refuses env .httpProtobuf endpoint f) :
    authorized env endpoint timeout fields tokens = .error f := by
  rw [authorized, address_of_refuses h]
  rfl

theorem refuses_or_address (env : Environment) (protocol : ExportProtocol) (endpoint : String) :
    (∃ f, Refuses env protocol endpoint f) ∨ ∃ uri, address env protocol endpoint = .ok uri := by
  by_cases hs : HasScheme endpoint
  · cases ha : Endpoint.address env protocol endpoint with
    | error f => exact .inl ⟨_, .address f hs ha⟩
    | ok uri =>
      refine .inr ⟨uri, ?_⟩
      rw [address, if_pos (isValid_iff.mpr hs), ha]
      rfl
  · exact .inl ⟨_, .scheme hs⟩

theorem protocol_of_name {p : ExportProtocol} : Exporter.protocol p.name = .ok p := by
  have hread : ExportProtocol.read? p.name = some p := by
    cases p <;> decide +kernel
  rw [Exporter.protocol, hread]

theorem protocol_of_unknown {name : String} (h : ∀ p : ExportProtocol, p.name ≠ name) :
    Exporter.protocol name = .error (.exporter (.unknownProtocol name)) := by
  have hread : ExportProtocol.read? name = none := by
    simp [ExportProtocol.read?, h]
  rw [Exporter.protocol, hread]

end Exporter

namespace Bootstrap

variable {b : Bootstrap} {s : Surroundings}

def policy (b : Bootstrap) : SamplingPolicy :=
  (SamplingPolicy.read b.settings.samplingRate).1

/-- Tokens come from the caller, or else from a search for default credentials. -/
inductive Credentials (b : Bootstrap) (s : Surroundings) : TokenSource → Option Discovery → Prop
  | given (tokens : TokenSource) (h : b.tokens = some tokens) : Credentials b s tokens none
  | discovered (tokens : TokenSource) (h : b.tokens = none)
      (found : s.discovery.result = .ok tokens) : Credentials b s tokens (some s.discovery)

/-- The exporter of cloud exports. -/
def cloudExporter (b : Bootstrap) (s : Surroundings) (project : String) (tokens : TokenSource) :
    Except StartupFault Exporter :=
  Exporter.authorized s.env b.endpoint b.settings.exportTimeout [(projectHeader, project)] tokens

/-- What a build comes to, the search for credentials that it makes, and the metadata keys that
detection asks for after that. -/
inductive Outcome (b : Bootstrap) (s : Surroundings) :
    Except StartupFault (Option Provider) → Option Discovery → List MetadataKey → Prop
  | toolMissing (blank : Text.trimmed b.settings.tool = "") :
      Outcome b s (.error .toolMissing) none []
  | disabled (tool : Text.trimmed b.settings.tool ≠ "") (selected : Selects b.settings .disabled) :
      Outcome b s (.ok none) none []
  | debugOutput (tool : Text.trimmed b.settings.tool ≠ "")
      (selected : Selects b.settings .debugOutput) :
      Outcome b s (.ok (some ⟨b.policy, .ofIdentity b.identity, .debugOutput⟩)) none []
  | unknownProtocol (endpoint : String) (tool : Text.trimmed b.settings.tool ≠ "")
      (selected : Selects b.settings (.collector endpoint))
      (unknown : ∀ p : ExportProtocol, p.name ≠ b.settings.collectorProtocol) :
      Outcome b s (.error (.exporter (.unknownProtocol b.settings.collectorProtocol))) none []
  | collectorRefused (endpoint : String) (p : ExportProtocol) (f : StartupFault)
      (tool : Text.trimmed b.settings.tool ≠ "")
      (selected : Selects b.settings (.collector endpoint))
      (known : p.name = b.settings.collectorProtocol)
      (refused : Exporter.Refuses s.env p endpoint f) : Outcome b s (.error f) none []
  | collector (endpoint : String) (p : ExportProtocol) (exporter : Exporter)
      (tool : Text.trimmed b.settings.tool ≠ "")
      (selected : Selects b.settings (.collector endpoint))
      (known : p.name = b.settings.collectorProtocol)
      (made : Exporter.collector s.env p endpoint b.settings.exportTimeout [] = .ok exporter) :
      Outcome b s (.ok (some ⟨b.policy, .ofIdentity b.identity, exporter⟩)) none []
  | noCredentials (project : String) (f : CredentialsFault)
      (tool : Text.trimmed b.settings.tool ≠ "")
      (selected : Selects b.settings (.cloud project)) (given : b.tokens = none)
      (missing : s.discovery.result = .error f) :
      Outcome b s (.error (.exporter (.noCredentials f))) (some s.discovery) []
  | cloudRefused (project : String) (tokens : TokenSource) (search : Option Discovery)
      (f : StartupFault) (tool : Text.trimmed b.settings.tool ≠ "")
      (selected : Selects b.settings (.cloud project))
      (credentials : Credentials b s tokens search)
      (refused : Exporter.Refuses s.env .httpProtobuf b.endpoint f) :
      Outcome b s (.error f) search []
  | undetected (project : String) (tokens : TokenSource) (search : Option Discovery)
      (exporter : Exporter) (f : DetectionError) (tool : Text.trimmed b.settings.tool ≠ "")
      (selected : Selects b.settings (.cloud project))
      (credentials : Credentials b s tokens search)
      (made : b.cloudExporter s project tokens = .ok exporter)
      (failed : (Detection.detect b.detector project s.metadata).result = .error f) :
      Outcome b s (.error (.resource f)) search
        (Detection.detect b.detector project s.metadata).asked
  | cloud (project : String) (tokens : TokenSource) (search : Option Discovery)
      (exporter : Exporter) (attributes : List Attribute)
      (tool : Text.trimmed b.settings.tool ≠ "") (selected : Selects b.settings (.cloud project))
      (credentials : Credentials b s tokens search)
      (made : b.cloudExporter s project tokens = .ok exporter)
      (detected : (Detection.detect b.detector project s.metadata).result = .ok attributes) :
      Outcome b s (.ok (some ⟨b.policy, ((Resource.ofList attributes).merge .telemetry).merge
          (.ofList b.identity.attributes), exporter⟩)) search
        (Detection.detect b.detector project s.metadata).asked

/-- The credentials settle where tokens come from and whether there is a search. -/
theorem tokenSource_of_credentials {tokens : TokenSource} {search : Option Discovery}
    (h : Credentials b s tokens search) :
    b.tokenSource s = .ok tokens ∧ b.search? s = search := by
  unfold tokenSource search?
  cases h with
  | given h =>
    rw [h]
    exact ⟨rfl, rfl⟩
  | discovered h found =>
    rw [h, found]
    exact ⟨rfl, rfl⟩

theorem build_of_blank (h : Text.trimmed b.settings.tool = "") :
    (b.build s).result = .error .toolMissing ∧ (b.build s).search = none ∧
      (b.build s).asked = [] := by
  rw [build, if_pos (Text.isBlankText_iff.mpr h)]
  exact ⟨rfl, rfl, rfl⟩

theorem build_of_selects {backend : Backend} {x : Except StartupFault (Option Provider)}
    {search : Option Discovery} {keys : List MetadataKey}
    (tool : Text.trimmed b.settings.tool ≠ "") (h : Selects b.settings backend)
    (built : (b.buildBackend s b.policy backend).result = x ∧
      (b.buildBackend s b.policy backend).search = search ∧
      (b.buildBackend s b.policy backend).asked = keys) :
    (b.build s).result = x ∧ (b.build s).search = search ∧ (b.build s).asked = keys := by
  rw [build, if_neg ((not_congr Text.isBlankText_iff).mpr tool), Bootstrap.backend,
    Backend.resolve_eq_iff.mpr h]
  exact built

theorem buildCollector_of_known {endpoint : String} {p : ExportProtocol}
    (h : p.name = b.settings.collectorProtocol) :
    (do
      let protocol ← Exporter.protocol b.settings.collectorProtocol
      Exporter.collector s.env protocol endpoint b.settings.exportTimeout []) =
      Exporter.collector s.env p endpoint b.settings.exportTimeout [] := by
  rw [← h, Exporter.protocol_of_name]
  rfl

/-- Nothing but its outcome can come of a build. -/
theorem build_of_outcome {x : Except StartupFault (Option Provider)} {search : Option Discovery}
    {keys : List MetadataKey} (h : Outcome b s x search keys) :
    (b.build s).result = x ∧ (b.build s).search = search ∧ (b.build s).asked = keys := by
  cases h with
  | toolMissing blank => exact build_of_blank blank
  | disabled tool selected => exact build_of_selects tool selected ⟨rfl, rfl, rfl⟩
  | debugOutput tool selected => exact build_of_selects tool selected ⟨rfl, rfl, rfl⟩
  | unknownProtocol endpoint tool selected unknown =>
    apply build_of_selects tool selected
    simp only [buildBackend, buildCollector, Exporter.protocol_of_unknown unknown]
    exact ⟨rfl, rfl, rfl⟩
  | collectorRefused endpoint p f tool selected known refused =>
    apply build_of_selects tool selected
    simp only [buildBackend, buildCollector, buildCollector_of_known known,
      Exporter.collector_of_refuses refused, and_self]
  | collector endpoint p exporter tool selected known made =>
    apply build_of_selects tool selected
    simp only [buildBackend, buildCollector, buildCollector_of_known known, made, and_self]
  | noCredentials project f tool selected given missing =>
    apply build_of_selects tool selected
    simp only [buildBackend, buildCloud, tokenSource, search?, given, missing]
    exact ⟨rfl, rfl, rfl⟩
  | cloudRefused project tokens search f tool selected credentials refused =>
    obtain ⟨htokens, hsearch⟩ := tokenSource_of_credentials credentials
    apply build_of_selects tool selected
    simp only [buildBackend, buildCloud, htokens, hsearch,
      Exporter.authorized_of_refuses refused, and_self]
  | undetected project tokens search exporter f tool selected credentials made failed =>
    obtain ⟨htokens, hsearch⟩ := tokenSource_of_credentials credentials
    rw [cloudExporter] at made
    apply build_of_selects tool selected
    simp only [buildBackend, buildCloud, htokens, hsearch, made, Detection.cloudResource, failed]
    exact ⟨rfl, rfl, rfl⟩
  | cloud project tokens search exporter attributes tool selected credentials made detected =>
    obtain ⟨htokens, hsearch⟩ := tokenSource_of_credentials credentials
    rw [cloudExporter] at made
    apply build_of_selects tool selected
    simp only [buildBackend, buildCloud, htokens, hsearch, made, Detection.cloudResource, detected]
    exact ⟨rfl, rfl, rfl⟩

theorem credentials_cases (b : Bootstrap) (s : Surroundings) :
    (∃ tokens search, Credentials b s tokens search) ∨
      b.tokens = none ∧ ∃ f, s.discovery.result = .error f := by
  cases ht : b.tokens with
  | some tokens => exact .inl ⟨tokens, none, .given tokens ht⟩
  | none =>
    cases hd : s.discovery.result with
    | error f => exact .inr ⟨rfl, f, rfl⟩
    | ok tokens => exact .inl ⟨tokens, _, .discovered tokens ht hd⟩

theorem exists_outcome (b : Bootstrap) (s : Surroundings) :
    ∃ x search keys, Outcome b s x search keys := by
  by_cases tool : Text.trimmed b.settings.tool = ""
  · exact ⟨_, _, _, .toolMissing tool⟩
  · have selected : Selects b.settings b.backend := Backend.resolve_eq_iff.mp rfl
    cases hb : b.backend with
    | disabled =>
      rw [hb] at selected
      exact ⟨_, _, _, .disabled tool selected⟩
    | debugOutput =>
      rw [hb] at selected
      exact ⟨_, _, _, .debugOutput tool selected⟩
    | collector endpoint =>
      rw [hb] at selected
      by_cases known : ∃ p : ExportProtocol, p.name = b.settings.collectorProtocol
      · obtain ⟨p, known⟩ := known
        rcases Exporter.refuses_or_address s.env p endpoint with ⟨f, refused⟩ | ⟨uri, haddress⟩
        · exact ⟨_, _, _, .collectorRefused endpoint p f tool selected known refused⟩
        · exact ⟨_, _, _, .collector endpoint p _ tool selected known (by
            rw [Exporter.collector, haddress]; rfl)⟩
      · exact ⟨_, _, _, .unknownProtocol endpoint tool selected fun p hp => known ⟨p, hp⟩⟩
    | cloud project =>
      rw [hb] at selected
      rcases credentials_cases b s with ⟨tokens, search, credentials⟩ | ⟨given, f, missing⟩
      · rcases Exporter.refuses_or_address s.env .httpProtobuf b.endpoint with
          ⟨f, refused⟩ | ⟨uri, haddress⟩
        · exact ⟨_, _, _, .cloudRefused project tokens search f tool selected credentials refused⟩
        · have made : b.cloudExporter s project tokens = .ok (.http uri b.settings.exportTimeout
              (Exporter.fixedHeaders [(projectHeader, project)]) (some tokens)) := by
            rw [cloudExporter, Exporter.authorized, haddress]
            rfl
          cases hd : (Detection.detect b.detector project s.metadata).result with
          | error f =>
            exact ⟨_, _, _, .undetected project tokens search _ f tool selected credentials made hd⟩
          | ok attributes =>
            exact ⟨_, _, _,
              .cloud project tokens search _ attributes tool selected credentials made hd⟩
      · exact ⟨_, _, _, .noCredentials project f tool selected given missing⟩

end Bootstrap

end TracedService
