import TracedService.Proofs.Startup.Outcome

/-! Two builds whose settings select one kind of backend come to the same as soon as the settings
agree on the fields which that backend uses. -/

namespace TracedService

/-- The settings agree on the fields that the backend uses. -/
def TracingSettings.AgreeFor (s t : TracingSettings) : Backend → Prop
  | .cloud _ => t.googleCloudProject = s.googleCloudProject ∧ t.otlpEndpoint = s.otlpEndpoint ∧
      t.exportTimeout = s.exportTimeout
  | .collector _ => t.jaegerEndpoint = s.jaegerEndpoint ∧
      t.collectorProtocol = s.collectorProtocol ∧ t.exportTimeout = s.exportTimeout
  | .debugOutput | .disabled => True

instance (s t : TracingSettings) : DecidablePred (s.AgreeFor t)
  | .cloud _ => inferInstanceAs (Decidable (_ ∧ _ ∧ _))
  | .collector _ => inferInstanceAs (Decidable (_ ∧ _ ∧ _))
  | .debugOutput | .disabled => .isTrue trivial

/-- Project and endpoint are all that backends of one kind can differ in. -/
theorem Backend.resolve_eq_of_agreeFor {s t : TracingSettings}
    (kind : (resolve t).name = (resolve s).name) (agree : s.AgreeFor t (resolve s)) :
    resolve t = resolve s := by
  have hs : Selects s (resolve s) := resolve_eq_iff.mp rfl
  have ht : Selects t (resolve t) := resolve_eq_iff.mp rfl
  generalize resolve s = x at hs kind agree
  generalize resolve t = y at ht kind
  cases hs with
  | cloud =>
    cases ht with
    | cloud => rw [agree.1]
    | _ => simp [name] at kind
  | collector =>
    cases ht with
    | collector => rw [agree.1]
    | _ => simp [name] at kind
  | debugOutput =>
    cases ht with
    | debugOutput => rfl
    | _ => simp [name] at kind
  | disabled =>
    cases ht with
    | disabled => rfl
    | _ => simp [name] at kind

namespace Bootstrap

variable {b : Bootstrap} {t : TracingSettings} {s : Surroundings} {policy : SamplingPolicy}
  {backend : Backend}

def withSettings (b : Bootstrap) (t : TracingSettings) : Bootstrap :=
  { b with settings := t }

theorem buildCloud_withSettings {project : String} (h : b.settings.AgreeFor t (.cloud project)) :
    (b.withSettings t).buildCloud s policy project = b.buildCloud s policy project := by
  obtain ⟨-, hendpoint, htimeout⟩ := h
  have htokens : (b.withSettings t).tokenSource s = b.tokenSource s := rfl
  have haddress : (b.withSettings t).endpoint = b.endpoint := by
    rw [endpoint, endpoint, ← hendpoint]
    rfl
  have hexporter : (b.withSettings t).settings.exportTimeout = b.settings.exportTimeout := htimeout
  simp only [buildCloud, htokens, haddress, hexporter]
  rfl

theorem buildCollector_withSettings {endpoint : String}
    (h : b.settings.AgreeFor t (.collector endpoint)) :
    (b.withSettings t).buildCollector s policy endpoint = b.buildCollector s policy endpoint := by
  obtain ⟨-, hprotocol, htimeout⟩ := h
  simp only [buildCollector, ← hprotocol, ← htimeout]
  rfl

theorem buildBackend_withSettings (h : b.settings.AgreeFor t backend) :
    ((b.withSettings t).buildBackend s policy backend).result =
        (b.buildBackend s policy backend).result ∧
      ((b.withSettings t).buildBackend s policy backend).asked =
        (b.buildBackend s policy backend).asked := by
  cases backend with
  | cloud project => simp only [buildBackend, buildCloud_withSettings h, and_self]
  | debugOutput => exact ⟨rfl, rfl⟩
  | collector endpoint => simp only [buildBackend, buildCollector_withSettings h, and_self]
  | disabled => exact ⟨rfl, rfl⟩

/-- Settings with one rate that select one kind of backend and agree on the fields which it uses
have the same result, and the metadata server is asked for the same keys. The fields of other
backends do not matter, nor what else the tool texts hold. -/
theorem build_withSettings (b : Bootstrap) (t : TracingSettings) (s : Surroundings)
    (rate : t.samplingRate = b.settings.samplingRate) (tool : Text.trimmed b.settings.tool ≠ "")
    (tool' : Text.trimmed t.tool ≠ "")
    (kind : (Backend.resolve t).name = (Backend.resolve b.settings).name)
    (agree : b.settings.AgreeFor t (Backend.resolve b.settings)) :
    ((b.withSettings t).build s).result = (b.build s).result ∧
      ((b.withSettings t).build s).asked = (b.build s).asked := by
  have hpolicy : (b.withSettings t).policy = b.policy := by
    simp only [Bootstrap.policy, withSettings, rate]
  have selected : Selects b.settings (Backend.resolve b.settings) := Backend.resolve_eq_iff.mp rfl
  have selected' : Selects (b.withSettings t).settings (Backend.resolve b.settings) :=
    Backend.resolve_eq_iff.mp (Backend.resolve_eq_of_agreeFor kind agree)
  obtain ⟨hresult, hasked⟩ := @buildBackend_withSettings b t s b.policy _ agree
  obtain ⟨hr, -, ha⟩ := build_of_selects (s := s) tool selected ⟨rfl, rfl, rfl⟩
  obtain ⟨hr', -, ha'⟩ :=
    build_of_selects (b := b.withSettings t) (s := s) tool' selected' ⟨rfl, rfl, rfl⟩
  rw [hr, ha, hr', ha', hpolicy]
  exact ⟨hresult, hasked⟩

def acme : Bootstrap where
  identity := { name := "orders" }
  settings := { tool := "GCP", googleCloudProject := "acme" }
  detector := .ofEnvironment {}
  tokens := some (.given (.ok "ya29"))

/-- The same cloud, mentioned last, and a collector that could not be built. -/
def clutteredSettings : TracingSettings where
  tool := "STDOUT, JAEGER, GCP"
  googleCloudProject := "acme"
  jaegerEndpoint := "nowhere"
  collectorProtocol := "thrift"
  startupTimeout := 0

/-- The collector is left alone, also where the platform answers. -/
theorem build_withSettings_cluttered :
    (Backend.resolve clutteredSettings).name = (Backend.resolve acme.settings).name ∧
      acme.settings.AgreeFor clutteredSettings (Backend.resolve acme.settings) ∧
      ((acme.withSettings clutteredSettings).build
          { metadata := fun _ => .answered 0 200 (some "acme") }).result =
        (acme.build { metadata := fun _ => .answered 0 200 (some "acme") }).result ∧
      ((acme.withSettings clutteredSettings).build
          { metadata := fun _ => .answered 0 200 (some "acme") }).asked =
        (acme.build { metadata := fun _ => .answered 0 200 (some "acme") }).asked := by
  have kind : (Backend.resolve clutteredSettings).name = (Backend.resolve acme.settings).name := by
    decide +kernel
  have agree : acme.settings.AgreeFor clutteredSettings (Backend.resolve acme.settings) := by
    decide +kernel
  exact ⟨kind, agree, build_withSettings acme clutteredSettings _ rfl (by decide +kernel)
    (by decide +kernel) kind agree⟩

end Bootstrap

end TracedService
