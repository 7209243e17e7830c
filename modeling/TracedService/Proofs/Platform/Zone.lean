import TracedService.Proofs.Platform.Emptiness

/-! Where a machine stands. The answer about the zone is a path, its last part is the zone, and the
zone is a region with a suffix. Main statement: `detect_located`. -/

namespace TracedService

namespace MetadataServer

variable {server server' : MetadataServer} {t : Nat} {key : MetadataKey} {text v : String}

/-- The server answers in time and with success. -/
def Answers (server : MetadataServer) (timeoutMillis : Nat) (key : MetadataKey) (text : String) :
    Prop :=
  ∃ delay status, server key = .answered delay status (some text) ∧ delay < timeoutMillis ∧
    200 ≤ status ∧ status < 300

theorem Answers.gives_iff (h : server.Answers t key text) :
    server.Gives t key v ↔ v = Text.trimmed text ∧ v ≠ "" := by
  obtain ⟨delay, status, hanswer, hdelay, hlow, hhigh⟩ := h
  constructor
  · rintro ⟨delay', status', text', hanswer', -, -, -, rfl, hfull⟩
    cases hanswer.symm.trans hanswer'
    exact ⟨rfl, hfull⟩
  · rintro ⟨rfl, hfull⟩
    exact ⟨delay, status, text, hanswer, hdelay, hlow, hhigh, rfl, hfull⟩

theorem Answers.value? (h : server.Answers t key text) (hfull : Text.trimmed text ≠ "") :
    (server key).value? key t = .ok (some (Text.trimmed text)) :=
  value?_eq_some_iff.mpr (h.gives_iff.mpr ⟨rfl, hfull⟩)

end MetadataServer

namespace Detection

variable {d : Detector} {project : String} {server server' : MetadataServer} {t : Nat}
  {attributes : List Attribute} {p : Platform} {text v zone region : String}

/-- The attributes that come of the answer about one key. -/
def told (server : MetadataServer) (timeoutMillis : Nat) (key : MetadataKey) :
    Except DetectionError (List Attribute) :=
  ((server key).value? key timeoutMillis).map fun value =>
    (value.map fun v => (key, v)).toList.flatMap ofFound

def toldAll (server : MetadataServer) (timeoutMillis : Nat) (keys : List MetadataKey) :
    Except DetectionError (List Attribute) :=
  (server.askAll timeoutMillis keys).2.map fun values => values.flatMap ofFound

theorem toldAll_cons (server : MetadataServer) (t : Nat) (key : MetadataKey)
    (keys : List MetadataKey) :
    toldAll server t (key :: keys) = do
      let first ← told server t key
      let rest ← toldAll server t keys
      return first ++ rest := by
  rw [toldAll, toldAll, told, MetadataServer.askAll]
  cases (server key).value? key t with
  | error e => rfl
  | ok value =>
    change ((server.askAll t keys).2.map _).map _ = _
    cases (server.askAll t keys).2 with
    | error e => rfl
    | ok values => exact congrArg Except.ok List.flatMap_append

theorem toldAll_congr (h : ∀ key, told server' t key = told server t key)
    (keys : List MetadataKey) : toldAll server' t keys = toldAll server t keys := by
  induction keys with
  | nil => rfl
  | cons key keys ih => rw [toldAll_cons, toldAll_cons, h key, ih]

theorem result_eq_toldAll {found : Option String}
    (h : (server .projectId).value? .projectId d.timeoutMillis = .ok found) :
    (detect d project server).result =
      (toldAll server d.timeoutMillis (furtherKeys (platformWith d found) found.isSome)).map
        fun attributes => known d project found ++ attributes := by
  rw [result_eq h, toldAll]
  cases (server.askAll d.timeoutMillis
    (furtherKeys (platformWith d found) found.isSome)).2 <;> rfl

/-- Servers of which the same is to be learnt make the same result. -/
theorem result_of_told (hproject : server' .projectId = server .projectId)
    (h : ∀ key, told server' d.timeoutMillis key = told server d.timeoutMillis key) :
    (detect d project server').result = (detect d project server).result := by
  cases hfound : (server .projectId).value? .projectId d.timeoutMillis with
  | error e =>
    rw [(detect_of_error d project server hfound).2,
      (detect_of_error d project server' (by rw [hproject, hfound])).2]
  | ok found =>
    rw [result_eq_toldAll hfound, result_eq_toldAll (by rw [hproject, hfound]), toldAll_congr h]

/-- The part has no slash in it, and in front of it there is nothing or a slash. -/
def LastPart (path part : String) : Prop :=
  '/' ∉ part.toList ∧ (path = part ∨ ∃ before, path = before ++ "/" ++ part)

theorem lastPart_lastSegment (path : String) : LastPart path (lastSegment path) := by
  obtain ⟨hfree, hpath⟩ := Text.lastPiece_eq_iff.mp (rfl : Text.lastPiece '/' path.toList = _)
  rw [LastPart, lastSegment, String.toList_ofList]
  refine ⟨hfree, ?_⟩
  rcases hpath with hpath | ⟨before, hpath⟩
  · left
    rw [← hpath, String.ofList_toList]
  · right
    refine ⟨String.ofList before, String.toList_inj.mp ?_⟩
    simpa using hpath

theorem lastSegment_trimmed_append (hne : text ≠ "") (h : Text.Trimmed text.toList)
    (path : String) :
    Text.trimmed (path ++ "/" ++ text) ≠ "" ∧
      lastSegment (Text.trimmed (path ++ "/" ++ text)) = lastSegment text := by
  have htrim : Text.trim (path ++ "/" ++ text).toList =
      Text.trimStart path.toList ++ '/' :: text.toList := by
    have hchars : (path ++ "/" ++ text).toList = path.toList ++ '/' :: text.toList := by simp
    rw [hchars, Text.trim_append_cons (by decide) h (mt String.toList_eq_nil_iff.mp hne)]
  rw [Text.trimmed, htrim, lastSegment, String.toList_ofList, Text.lastPiece_append_cons,
    lastSegment, Ne, String.ofList_eq_empty_iff]
  exact ⟨by simp, rfl⟩

/-- A region is what is in front of the last dash, with text on both sides of it. -/
theorem regionOfZone?_eq_some_iff :
    regionOfZone? zone = some region ↔ ∃ suffix, zone = region ++ "-" ++ suffix ∧
      region ≠ "" ∧ suffix ≠ "" ∧ '-' ∉ suffix.toList := by
  rw [regionOfZone?, Option.bind_eq_some_iff]
  constructor
  · rintro ⟨⟨front, back⟩, hcut, hfull⟩
    obtain ⟨hzone, hfree⟩ := Text.cutLast?_eq_some_iff.mp hcut
    dsimp only at hfull
    split at hfull
    · cases hfull
    · rename_i hboth
      cases hfull
      simp only [Bool.or_eq_true, List.isEmpty_iff, not_or] at hboth
      refine ⟨String.ofList back, String.toList_inj.mp (by simp [hzone]), ?_⟩
      simpa [String.ofList_eq_empty_iff, hfree] using hboth
  · rintro ⟨suffix, rfl, hregion, hsuffix, hfree⟩
    refine ⟨(region.toList, suffix.toList), Text.cutLast?_eq_some_iff.mpr ⟨by simp, hfree⟩, ?_⟩
    simp [hregion, hsuffix]

theorem zone_reported_iff (h : (detect d project server).result = .ok attributes)
    (runs : RunsOn d server p) (machine : p.HasMachine) (onCloud : OnCloud d server) :
    ("cloud.availability_zone", v) ∈ attributes ↔
      ∃ path, server.Gives d.timeoutMillis .zone path ∧ v = lastSegment path := by
  rw [mem_attributes_iff h]
  constructor
  · intro hv
    generalize hkey : "cloud.availability_zone" = key at hv
    cases hv with
    | zone q path _ _ _ given => exact ⟨path, given, rfl⟩
    | _ => exact absurd hkey (by decide)
  · rintro ⟨path, given, rfl⟩
    exact .zone p path runs machine onCloud given

theorem region_reported_iff (h : (detect d project server).result = .ok attributes)
    (runs : RunsOn d server p) (machine : p.HasMachine) (onCloud : OnCloud d server) :
    ("cloud.region", v) ∈ attributes ↔ ∃ path, server.Gives d.timeoutMillis .zone path ∧
      regionOfZone? (lastSegment path) = some v := by
  rw [mem_attributes_iff h]
  constructor
  · intro hv
    generalize hkey : "cloud.region" = key at hv
    cases hv with
    | regionOfZone q path region _ _ _ given cut => exact ⟨path, given, cut⟩
    | region q path runs' serverless => exact absurd (runs.unique runs' ▸ machine) serverless
    | _ => exact absurd hkey (by decide)
  · rintro ⟨path, given, cut⟩
    exact .regionOfZone p path v runs machine onCloud given cut

/-- Attributes tell of the zone that a path ends in, and of its region where it has one. -/
structure Located (attributes : List Attribute) (path zone : String) : Prop where
  lastPart : LastPart path zone
  zone_iff : ∀ v, ("cloud.availability_zone", v) ∈ attributes ↔ v = zone
  region_iff : ∀ v, ("cloud.region", v) ∈ attributes ↔
    ∃ suffix, zone = v ++ "-" ++ suffix ∧ v ≠ "" ∧ suffix ≠ "" ∧ '-' ∉ suffix.toList

theorem told_zone (answers : server.Answers t .zone text) (hfull : Text.trimmed text ≠ "") :
    told server t .zone = .ok (ofFound (.zone, Text.trimmed text)) := by
  rw [told, answers.value? hfull]
  exact congrArg Except.ok (List.append_nil _)

theorem ofFound_zone_congr {path path' : String} (h : lastSegment path' = lastSegment path) :
    ofFound (.zone, path') = ofFound (.zone, path) := by
  rw [ofFound, ofFound, h]

/-- On a machine the zone is the last part of the answer's text, and its region is reported exactly
where its last dash has text on both sides. Without text neither is reported. A path in front of the
text does not matter, however long it is and whatever it starts with. -/
theorem detect_located (d : Detector) (project : String) (server : MetadataServer) (p : Platform)
    (text : String) (attributes : List Attribute) (runs : RunsOn d server p)
    (machine : p = .computeEngine ∨ p = .kubernetesEngine) (onCloud : OnCloud d server)
    (answers : server.Answers d.timeoutMillis .zone text)
    (h : (detect d project server).result = .ok attributes) :
    (Text.trimmed text ≠ "" → ∃ zone, Located attributes (Text.trimmed text) zone) ∧
    (Text.trimmed text = "" → ∀ v,
      ("cloud.availability_zone", v) ∉ attributes ∧ ("cloud.region", v) ∉ attributes) ∧
    ∀ path server', text ≠ "" → Text.Trimmed text.toList →
      (∀ key, key ≠ .zone → server' key = server key) →
      server'.Answers d.timeoutMillis .zone (path ++ "/" ++ text) →
      (detect d project server').result = .ok attributes := by
  refine ⟨fun hfull => ⟨lastSegment (Text.trimmed text), lastPart_lastSegment _, fun v => ?_,
    fun v => ?_⟩, fun hblank v => ?_, fun path server' hne htrimmed hothers answers' => ?_⟩
  · simp [zone_reported_iff h runs machine onCloud, answers.gives_iff, hfull]
  · rw [← regionOfZone?_eq_some_iff, region_reported_iff h runs machine onCloud]
    simp [answers.gives_iff, hfull]
  · rw [zone_reported_iff h runs machine onCloud, region_reported_iff h runs machine onCloud]
    simp [answers.gives_iff, hblank]
  · have htext : Text.trimmed text = text := by
      rw [Text.trimmed, htrimmed.trim, String.ofList_toList]
    obtain ⟨hfull, hlast⟩ := lastSegment_trimmed_append hne htrimmed path
    rw [← h]
    -- Both texts have the same last part, and nothing else of them is told.
    refine result_of_told (hothers _ (by decide)) fun key => ?_
    by_cases hkey : key = .zone
    · rw [hkey, told_zone answers' hfull, told_zone answers (by rwa [htext]), htext,
        ofFound_zone_congr hlast]
    · rw [told, told, hothers key hkey]

/-- The node's server, with a longer path to the zone. -/
def deepServer : MetadataServer
  | .zone => .answered 7 203 (some " deep//projects/1/zones/europe-west4-b")
  | key => nodeServer key

theorem detect_located_node :
    let attributes := [("cloud.provider", "gcp"), ("cloud.account.id", "acme"),
      ("cloud.platform", "gcp_kubernetes_engine"), ("cloud.region", "europe-west4"),
      ("cloud.availability_zone", "europe-west4-b"), ("host.id", "42"), ("host.type", "e2-medium")]
    RunsOn nodeDetector nodeServer .kubernetesEngine ∧ OnCloud nodeDetector nodeServer ∧
      nodeServer.Answers 2000 .zone "projects/1/zones/europe-west4-b" ∧
      Located attributes "projects/1/zones/europe-west4-b" "europe-west4-b" ∧
      deepServer.Answers 2000 .zone (" deep/" ++ "/" ++ "projects/1/zones/europe-west4-b") ∧
      (detect nodeDetector "configured" deepServer).result = .ok attributes := by
  intro attributes
  have runs : RunsOn nodeDetector nodeServer .kubernetesEngine := .shown _ rfl
  have onCloud : OnCloud nodeDetector nodeServer :=
    ⟨"acme", 5, 200, " acme\n", rfl, by decide, by decide, by decide, by decide, by decide⟩
  have answers : nodeServer.Answers 2000 .zone "projects/1/zones/europe-west4-b" :=
    ⟨5, 200, rfl, by decide, by decide, by decide⟩
  have deep :
      deepServer.Answers 2000 .zone (" deep/" ++ "/" ++ "projects/1/zones/europe-west4-b") :=
    ⟨7, 203, rfl, by decide, by decide, by decide⟩
  have htrimmed : Text.Trimmed "projects/1/zones/europe-west4-b".toList := by
    have htrim : "projects/1/zones/europe-west4-b".toList =
        Text.trim "projects/1/zones/europe-west4-b".toList := by decide
    rw [htrim]
    exact Text.trimmed_trim _
  obtain ⟨hlocated, -, hpath⟩ := detect_located nodeDetector "configured" nodeServer
    .kubernetesEngine "projects/1/zones/europe-west4-b" attributes runs (.inr rfl) onCloud answers
    rfl
  refine ⟨runs, onCloud, answers, ?_, deep, hpath " deep/" deepServer (by decide) htrimmed ?_ deep⟩
  · obtain ⟨zone, located⟩ := hlocated (by decide)
    obtain rfl : "europe-west4-b" = zone := (located.zone_iff _).mp (by decide)
    exact located
  · intro key hkey
    cases key with
    | zone => exact absurd rfl hkey
    | _ => rfl

end Detection

end TracedService
