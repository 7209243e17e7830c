import TracedService.Proofs.Platform.Documented
import TracedService.Proofs.Resource

/-! The resource of a cloud service. What detection finds, what the software says of itself and who
the service is share no key, so all of it stands in the resource. Main statement:
`cloudResource_union`. -/

namespace TracedService.Detection

variable {d : Detector} {project : String} {server : MetadataServer}
  {attributes : List Attribute}

theorem nodup_sources (i : Identity) (h : (detect d project server).result = .ok attributes) :
    ((attributes ++ Resource.telemetry.attributes ++ i.attributes).map Prod.fst).Nodup := by
  have hkeys : (attributes ++ Resource.telemetry.attributes ++ i.attributes).map Prod.fst =
      attributes.map Prod.fst ++ (["telemetry.sdk.name", "telemetry.sdk.language",
        "telemetry.sdk.version"] ++ ["service.name", "environment", "module"]) := by
    rw [List.map_append, List.map_append, List.append_assoc]
    rfl
  rw [hkeys]
  exact ((keys_attributes h).append_right _).nodup (by decide)

theorem cloudResource_of_ok (i : Identity) (h : (detect d project server).result = .ok attributes) :
    cloudResource i (detect d project server) =
      .ok ⟨attributes ++ Resource.telemetry.attributes ++ i.attributes, none⟩ := by
  have hall := nodup_sources i h
  have htelemetry : ((attributes ++ Resource.telemetry.attributes).map Prod.fst).Nodup := by
    rw [List.map_append] at hall
    exact hall.sublist (List.sublist_append_left _ _)
  have hmerged : ((Resource.ofList attributes).merge Resource.telemetry).attributes =
      attributes ++ Resource.telemetry.attributes := by
    rw [Resource.merge, Resource.ofList_of_nodup (nodup_attributes h),
      Resource.foldl_put_of_nodup htelemetry]
  rw [cloudResource, h]
  refine congrArg Except.ok ?_
  dsimp only
  rw [Resource.merge, hmerged, Resource.ofList_of_nodup (Resource.nodup_keys i),
    Resource.foldl_put_of_nodup hall]
  rfl

/-- The resource has every detected attribute as it was detected, three about the software, and the
identity as it was given, in this order and nothing else. It fails to come about as detection
fails. -/
theorem cloudResource_union (i : Identity) (d : Detector) (project : String)
    (server : MetadataServer) :
    let made := detect d project server
    (∀ e, cloudResource i made = .error e ↔ made.result = .error e) ∧
      ∀ attributes, made.result = .ok attributes → ∃ resource,
        cloudResource i made = .ok resource ∧
        resource.attributes = attributes ++
          [("telemetry.sdk.name", "opentelemetry"), ("telemetry.sdk.language", "rust"),
            ("telemetry.sdk.version", "0.21.2")] ++
          [("service.name", i.name), ("environment", i.environment), ("module", i.module)] ∧
        resource.attributes.length = attributes.length + 6 ∧
        (resource.attributes.map Prod.fst).Nodup ∧
        ∀ key v, resource.get? key = some v ↔ (key, v) ∈ resource.attributes := by
  intro made
  constructor
  · intro e
    rw [cloudResource]
    cases made.result with
    | error e' => exact ⟨fun h => by cases h; rfl, fun h => by cases h; rfl⟩
    | ok attributes => exact ⟨nofun, nofun⟩
  · intro attributes h
    have hnodup := nodup_sources i h
    refine ⟨_, cloudResource_of_ok i h, rfl, ?_, hnodup, ?_⟩
    · rw [List.length_append, List.length_append]
      rfl
    · exact fun key v => Resource.get?_eq_some_iff hnodup

theorem cloudResource_union_node :
    let made := detect nodeDetector "configured" nodeServer
    made.result = .ok [("cloud.provider", "gcp"), ("cloud.account.id", "acme"),
        ("cloud.platform", "gcp_kubernetes_engine"), ("cloud.region", "europe-west4"),
        ("cloud.availability_zone", "europe-west4-b"), ("host.id", "42"),
        ("host.type", "e2-medium")] ∧
      ∃ resource, cloudResource { name := "orders" } made = .ok resource ∧
        resource.attributes.length = 13 ∧ resource.get? "cloud.region" = some "europe-west4" ∧
        resource.get? "environment" = some "" ∧ resource.get? "host.name" = none := by
  intro made
  have h : made.result = .ok [("cloud.provider", "gcp"), ("cloud.account.id", "acme"),
      ("cloud.platform", "gcp_kubernetes_engine"), ("cloud.region", "europe-west4"),
      ("cloud.availability_zone", "europe-west4-b"), ("host.id", "42"),
      ("host.type", "e2-medium")] := by
    rfl
  obtain ⟨resource, hresource, hattributes, hlength, -, hfound⟩ :=
    (cloudResource_union { name := "orders" } nodeDetector "configured" nodeServer).2 _ h
  refine ⟨h, resource, hresource, hlength, ?_, ?_, ?_⟩
  · rw [hfound, hattributes]
    simp
  · rw [hfound, hattributes]
    simp
  · refine Option.eq_none_iff_forall_ne_some.mpr fun v hv => ?_
    rw [hfound, hattributes] at hv
    simp at hv

end TracedService.Detection
