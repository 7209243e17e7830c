import TracedService.Proofs.Export.Emission
import TracedService.Proofs.Resource

/-! What arrives of a provider's spans, and what labels it. The resource depends on the backend, but
whatever the platform adds, the identity is in it. -/

namespace TracedService

namespace Resource

/-- The resource tells who the service is. -/
def Names (r : Resource) (i : Identity) : Prop :=
  ∀ a ∈ i.attributes, r.get? a.1 = some a.2

theorem names_ofIdentity (i : Identity) : (ofIdentity i).Names i := by
  intro a ha
  have hfound := find?_foldl_put (l := []) (nodup_keys i) ha
  exact congrArg (·.map Prod.snd) hfound

theorem names_merge (r : Resource) (i : Identity) : (r.merge (ofList i.attributes)).Names i := by
  intro a ha
  have hfound := find?_foldl_put (l := r.attributes) (nodup_keys i) ha
  rw [get?, merge, ofList_of_nodup (nodup_keys i)]
  exact congrArg (·.map Prod.snd) hfound

end Resource

namespace Bootstrap

variable {b : Bootstrap} {s : Surroundings} {provider : Provider}

def resource (b : Bootstrap) (s : Surroundings) : Except DetectionError Resource :=
  match b.backend with
  | .cloud project =>
    Detection.cloudResource b.identity (Detection.detect b.detector project s.metadata)
  | _ => .ok (.ofIdentity b.identity)

/-- A provider samples as the rate says, under the resource of its backend. -/
theorem provider_of_build (h : (b.build s).result = .ok (some provider)) :
    provider.policy = b.policy ∧ b.resource s = .ok provider.resource ∧
      provider.resource.Names b.identity := by
  obtain ⟨x, search, keys, houtcome⟩ := exists_outcome b s
  obtain rfl := (build_of_outcome houtcome).1.symm.trans h
  cases houtcome with
  | debugOutput tool selected =>
    refine ⟨rfl, ?_, Resource.names_ofIdentity _⟩
    rw [resource, backend, Backend.resolve_eq_iff.mpr selected]
  | collector endpoint p exporter tool selected known made =>
    refine ⟨rfl, ?_, Resource.names_ofIdentity _⟩
    rw [resource, backend, Backend.resolve_eq_iff.mpr selected]
  | cloud project tokens search exporter attributes tool selected credentials made detected =>
    refine ⟨rfl, ?_, Resource.names_merge _ _⟩
    simp only [resource, backend, Backend.resolve_eq_iff.mpr selected, Detection.cloudResource,
      detected]
    rfl

end Bootstrap

/-- The pipeline of a provider, with nothing on its way. -/
def Backlog.ofProvider (provider : Provider) : Backlog where
  pipeline := { exporter := provider.exporter, resource := provider.resource }

/-- Self-tests and further spans, of any names and with any ids, where exports work: at whatever
pace the worker goes, the flush that follows succeeds, and what was printed or received by then is
what the rate samples, each span once, in the order of their ends, and under the resource of the
backend, which names the service. -/
theorem sampled_spans_arrive_once {b : Bootstrap} {s : Surroundings} {provider : Provider}
    {net : Network} (built : (b.build s).result = .ok (some provider))
    (answered : provider.exporter.Answered net) (ids : IdSource) (scope : String)
    {selfTests : Nat} {names : List String} (few : selfTests + names.length < 2000) :
    ∃ r, b.resource s = .ok r ∧ r.Names b.identity ∧
      ∀ hs, QueueEvent.spans hs = provider.ended ids selfTests scope names →
        let (backlog, early) := (Backlog.ofProvider provider).run net hs
        let (result, _, late) := backlog.flush net
        result = .ok () ∧
          (early ++ late).flatMap Delivery.labelled =
            (Emission.recorded ⟨b.policy, ids⟩ 0 (Emission.batch selfTests scope names)).map
              fun span => (r, span) := by
  obtain ⟨hpolicy, hresource, hnames⟩ := Bootstrap.provider_of_build built
  refine ⟨provider.resource, hresource, hnames, fun hs hspans => ?_⟩
  rw [provider.ended_eq, hpolicy] at hspans
  have hroom : (QueueEvent.spans hs).length ≤ Backlog.capacity := by
    have hlength := Emission.length_recorded_le ⟨b.policy, ids⟩ 0
      (Emission.batch selfTests scope names)
    rw [Emission.batch, List.length_append, List.length_replicate, List.length_map] at hlength
    rw [hspans, Emission.batch, Backlog.capacity]
    omega
  have hdelivers : provider.exporter.DeliversAll net (QueueEvent.spans hs) := by
    intro batch hbatch
    rw [hspans] at hbatch
    exact answered.delivers ((Emission.grouped_batch _ selfTests scope names).of_part hbatch)
  have hflush := Backlog.run_flush
    (p := { exporter := provider.exporter, resource := provider.resource }) rfl rfl hroom hdelivers
  rwa [hspans] at hflush

/-- A service that prints the spans of half of all traces. -/
def halfPrinted : Bootstrap where
  identity := ⟨"orders", "test", "billing"⟩
  settings := { tool := "STDOUT", samplingRate := "0.5" }
  detector := ⟨"http://metadata", [], 1000⟩

/-- Ids by turns below and above the half. -/
def alternating : IdSource where
  trace n := if n % 2 = 0 then 1 else BitVec.ofNat 128 (Nat.pow 2 64 - 1)
  span n := BitVec.ofNat 64 (n + 1)

def printing : Provider :=
  ⟨halfPrinted.policy, .ofIdentity halfPrinted.identity, .debugOutput⟩

theorem every_second_span_arrives :
    let (backlog, early) := (Backlog.ofProvider printing).run .isolated
      (Backlog.prompt (printing.ended alternating 1 "work" ["load", "store"]))
    let (result, _, late) := backlog.flush .isolated
    result = .ok () ∧ (early ++ late).flatMap Delivery.labelled =
      [(printing.resource, Emission.selfTest.span 1 1),
        (printing.resource, (Emission.named "work" "store").span 1 3)] := by
  have hbackend : halfPrinted.backend = .debugOutput := by decide +kernel
  have built : (halfPrinted.build {}).result = .ok (some printing) :=
    (Bootstrap.build_of_outcome (.debugOutput (by decide +kernel)
      (Backend.resolve_eq_iff.mp hbackend))).1
  have few : 1 + ["load", "store"].length < 2000 := by decide
  obtain ⟨r, hr, -, h⟩ := sampled_spans_arrive_once built .debugOutput alternating "work" few
  have hresource : halfPrinted.resource {} = .ok printing.resource := by
    rw [Bootstrap.resource, hbackend]
    rfl
  have hrecorded : Emission.recorded ⟨halfPrinted.policy, alternating⟩ 0
      (Emission.batch 1 "work" ["load", "store"]) =
      [Emission.selfTest.span 1 1, (Emission.named "work" "store").span 1 3] := by decide +kernel
  obtain rfl : printing.resource = r := Except.ok.inj (hresource.symm.trans hr)
  have hdone := h _ (Backlog.spans_prompt _)
  rwa [hrecorded] at hdone

end TracedService
