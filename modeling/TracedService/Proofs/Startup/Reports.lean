import TracedService.Proofs.Startup.Agreement

/-! What a build says in the log. Each of the steps that can fail has a report of its own; a build
goes through at most one of them, so that a fault is told once and at the end. -/

namespace TracedService

/-- The reports of faults among what is said. -/
def Notice.errors (ns : List Notice) : List Log.Event :=
  (ns.map Notice.event).filter (·.level = .error)

/-- The text that the log has for a fault; for a resource, that of the detection that failed. -/
def StartupFault.logged : StartupFault → String
  | resource f => f.message
  | f => f.message

/-- Nothing of this is the report of a fault. -/
def Quiet (ns : List Notice) : Prop :=
  ∀ n ∈ ns, n.level ≠ .error

namespace Quiet

variable {ns others : List Notice}

theorem nil : Quiet [] :=
  List.forall_mem_nil _

theorem singleton {n : Notice} (h : n.level ≠ .error) : Quiet [n] :=
  List.forall_mem_singleton.mpr h

theorem append (h : Quiet ns) (ho : Quiet others) : Quiet (ns ++ others) :=
  List.forall_mem_append.mpr ⟨h, ho⟩

theorem errors_eq_nil (h : Quiet ns) : Notice.errors ns = [] := by
  rw [Notice.errors, List.filter_eq_nil_iff]
  intro e he
  obtain ⟨n, hn, rfl⟩ := List.mem_map.mp he
  simpa using! h n hn

theorem errors_append_singleton {n : Notice} (h : Quiet ns) (hn : n.level = .error) :
    Notice.errors (ns ++ [n]) = [n.event] := by
  have hevent : n.event.level = .error := hn
  rw [Notice.errors, List.map_append, List.filter_append, ← Notice.errors, h.errors_eq_nil]
  simp [hevent]

end Quiet

theorem SamplingPolicy.quiet_read (rate : String) : Quiet (SamplingPolicy.read rate).2 := by
  unfold SamplingPolicy.read
  split
  · exact .nil
  · split <;> exact .singleton nofun

namespace Detection

variable {d : Detector} {server : MetadataServer}

theorem quiet_unreachableNotices (asked : List MetadataKey) :
    Quiet (unreachableNotices d server asked) := by
  intro n hn
  obtain ⟨key, -, rfl⟩ := List.mem_map.mp hn
  exact nofun

theorem quiet_detect (project : String) : Quiet (detect d project server).notices := by
  unfold detect
  split
  · exact .nil
  · exact (quiet_unreachableNotices _).append
      (List.forall_mem_cons.mpr ⟨nofun, quiet_unreachableNotices _⟩)

end Detection

namespace Exporter

variable {env : Environment} {p : ExportProtocol} {endpoint name : String} {f : StartupFault}

theorem logged_of_address {α : Type} {make : Http.Uri → α}
    (h : (address env p endpoint).map make = .error f) : f.logged = f.message := by
  rcases refuses_or_address env p endpoint with ⟨f', refused⟩ | ⟨uri, haddress⟩
  · rw [address_of_refuses refused] at h
    cases h
    cases refused <;> rfl
  · rw [haddress] at h
    cases h

theorem logged_of_protocol (h : protocol name = .error f) : f.logged = f.message := by
  rw [protocol] at h
  split at h
  · cases h
  · cases h
    rfl

end Exporter

/-- How notices go with a result: silence about faults with a success, and one report at the end
with a fault. -/
inductive Reports : Except StartupFault (Option Provider) → List Notice → Prop
  | success (provider : Option Provider) {ns : List Notice} (quiet : Quiet ns) :
      Reports (.ok provider) ns
  | failure (f : StartupFault) (ns : List Notice) (n : Notice) (quiet : Quiet ns)
      (level : n.level = .error)
      (told : n.fields.lookup "error" = some (.text f.logged)) : Reports (.error f) (ns ++ [n])

namespace Bootstrap

variable {b : Bootstrap} {s : Surroundings} {policy : SamplingPolicy}

theorem logged_of_tokenSource {f : StartupFault} (h : b.tokenSource s = .error f) :
    f.logged = f.message := by
  rcases credentials_cases b s with ⟨tokens, search, credentials⟩ | ⟨given, f', missing⟩
  · cases (tokenSource_of_credentials credentials).1.symm.trans h
  · rw [tokenSource, given, missing] at h
    cases h
    rfl

theorem reports_buildCloud (project : String) :
    Reports (b.buildCloud s policy project).result (b.buildCloud s policy project).notices := by
  unfold buildCloud
  cases htokens : b.tokenSource s with
  | error f =>
    refine .failure f [] _ .nil rfl ?_
    rw [logged_of_tokenSource htokens]
    rfl
  | ok tokens =>
    dsimp only
    cases hexporter : Exporter.authorized s.env b.endpoint b.settings.exportTimeout
        [(projectHeader, project)] tokens with
    | error f =>
      refine .failure f [] _ .nil rfl ?_
      rw [Exporter.logged_of_address hexporter]
      rfl
    | ok exporter =>
      have quiet : Quiet (Detection.detect b.detector project s.metadata).notices :=
        Detection.quiet_detect project
      dsimp only
      cases Detection.cloudResource b.identity (Detection.detect b.detector project s.metadata) with
      | error f => exact .failure (.resource f) _ _ quiet rfl rfl
      | ok resource => exact .success _ (quiet.append (.singleton nofun))

theorem reports_buildCollector (endpoint : String) :
    Reports (b.buildCollector s policy endpoint).result
      (b.buildCollector s policy endpoint).notices := by
  unfold buildCollector
  cases hprotocol : Exporter.protocol b.settings.collectorProtocol with
  | error f =>
    refine .failure f [] _ .nil rfl ?_
    rw [Exporter.logged_of_protocol hprotocol]
    rfl
  | ok p =>
    dsimp only [bind, Except.bind]
    cases hexporter : Exporter.collector s.env p endpoint b.settings.exportTimeout [] with
    | error f =>
      refine .failure f [] _ .nil rfl ?_
      rw [Exporter.logged_of_address hexporter]
      rfl
    | ok exporter => exact .success _ (.singleton nofun)

theorem reports_buildBackend (policy : SamplingPolicy) (backend : Backend) :
    Reports (b.buildBackend s policy backend).result (b.buildBackend s policy backend).notices := by
  cases backend with
  | cloud project => exact reports_buildCloud project
  | debugOutput => exact .success _ (.singleton nofun)
  | collector endpoint => exact reports_buildCollector endpoint
  | disabled => exact .success _ (.singleton nofun)

theorem quiet_opening : Quiet b.opening :=
  (SamplingPolicy.quiet_read _).append (.singleton nofun)

theorem build_of_tool (tool : Text.trimmed b.settings.tool ≠ "") :
    (b.build s).result = (b.buildBackend s b.policy b.backend).result ∧
      (b.build s).notices = b.opening ++ (b.buildBackend s b.policy b.backend).notices := by
  rw [build, if_neg ((not_congr Text.isBlankText_iff).mpr tool)]
  exact ⟨rfl, rfl⟩

/-- The event that names the backend. -/
def selection (b : Bootstrap) (backend : Backend) : Log.Event where
  level := .info
  target := "tracer_bootstrap::tracing::init"
  message := "Resolved tracing backend"
  fields := [("tool", .text b.settings.tool), ("backend", .text backend.name)]

theorem map_event_opening : b.opening.map Notice.event =
    (SamplingPolicy.read b.settings.samplingRate).2.map Notice.event ++
      [b.selection b.backend] := by
  rw [opening, List.map_append, List.map_singleton]
  rfl

/-- A fault is told once, with its own text, and last, when it has long been said which backend is
built; no fault, no report. A blank tool is told before anything else is said. -/
theorem build_reports_once (b : Bootstrap) (s : Surroundings) :
    (∀ provider, (b.build s).result = .ok provider → Notice.errors (b.build s).notices = []) ∧
      (∀ f, (b.build s).result = .error f → ∃ e, Notice.errors (b.build s).notices = [e] ∧
        (Text.trimmed b.settings.tool ≠ "" →
          e.fields.lookup "error" = some (.text f.logged) ∧
            ∃ backend before between, Selects b.settings backend ∧
              (b.build s).notices.map Notice.event =
                before ++ b.selection backend :: between ++ [e])) ∧
      (Text.trimmed b.settings.tool = "" → (b.build s).result = .error .toolMissing ∧
        (b.build s).notices.map Notice.event = [{
          level := .error
          target := "tracer_bootstrap::tracing::init"
          message := "Tracing tool is empty, skipping tracer initialization" }]) := by
  by_cases tool : Text.trimmed b.settings.tool = ""
  · have hbuild : b.build s = { result := .error .toolMissing, notices := [.toolBlank] } := by
      rw [build, if_pos (Text.isBlankText_iff.mpr tool)]
    rw [hbuild]
    have honce := Quiet.nil.errors_append_singleton (n := .toolBlank) rfl
    refine ⟨fun provider h => ?_, fun f _ => ⟨_, honce, fun h => absurd tool h⟩,
      fun _ => ⟨rfl, rfl⟩⟩
    cases h
  · obtain ⟨hresult, hnotices⟩ := build_of_tool (s := s) tool
    rw [hresult, hnotices]
    refine ⟨?_, ?_, fun h => absurd h tool⟩
    · intro provider hprovider
      have hreports := reports_buildBackend (b := b) (s := s) b.policy b.backend
      rw [hprovider] at hreports
      cases hreports with
      | success _ quiet => exact (quiet_opening.append quiet).errors_eq_nil
    · intro f hf
      have hreports := reports_buildBackend (b := b) (s := s) b.policy b.backend
      rw [hf] at hreports
      generalize (b.buildBackend s b.policy b.backend).notices = ns at hreports
      cases hreports with
      | failure _ between n quiet level told =>
        refine ⟨n.event, ?_, fun _ => ⟨told, b.backend,
          (SamplingPolicy.read b.settings.samplingRate).2.map Notice.event,
          between.map Notice.event, Backend.resolve_eq_iff.mp rfl, ?_⟩⟩
        · rw [← List.append_assoc]
          exact (quiet_opening.append quiet).errors_append_singleton level
        · rw [List.map_append, map_event_opening, List.map_append, List.append_assoc,
            List.append_assoc]
          rfl

/-- A metadata server in trouble is reported in the words of detection. -/
theorem build_reports_once_undetected :
    (acme.build { metadata := fun _ => .answered 0 500 none }).result =
        .error (.resource (.badStatus .projectId 500)) ∧
      Text.trimmed acme.settings.tool ≠ "" ∧
      ∃ e, Notice.errors (acme.build { metadata := fun _ => .answered 0 500 none }).notices = [e] ∧
        e.fields.lookup "error" =
          some (.text "Metadata server returned status 500 for project/project-id") := by
  have hresult : (acme.build { metadata := fun _ => .answered 0 500 none }).result =
      .error (.resource (.badStatus .projectId 500)) := by
    rfl
  have htool : Text.trimmed acme.settings.tool ≠ "" := by decide +kernel
  have hlogged : (StartupFault.resource (.badStatus .projectId 500)).logged =
      "Metadata server returned status 500 for project/project-id" := by
    decide +kernel
  obtain ⟨e, honce, htold⟩ := (build_reports_once acme _).2.1 _ hresult
  exact ⟨hresult, htool, e, honce, hlogged ▸ (htold htool).1⟩

end Bootstrap

end TracedService
