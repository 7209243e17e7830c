import TracedService.Proofs.Platform.Questions
import TracedService.Proofs.Text.Pieces

/-! Attributes without text. A variable or an answer that has none is treated as if it were not
there. Main statement: `detect_nonempty_iff`, what is found has some text in it unless an answer
that is cut down to its last part ends in a slash. -/

namespace TracedService

namespace MetadataServer

variable {server server' : MetadataServer} {t : Nat}

/-- The server, out of reach wherever its answer has no value and does no harm. -/
def heard (server : MetadataServer) (timeoutMillis : Nat) : MetadataServer := fun key =>
  match (server key).value? key timeoutMillis with
  | .ok none => .unreachable
  | _ => server key

theorem value?_heard (server : MetadataServer) (t : Nat) (key : MetadataKey) :
    (server.heard t key).value? key t = (server key).value? key t := by
  unfold heard
  split
  · rename_i hnone
    rw [hnone]
    rfl
  · rfl

theorem askAll_congr (h : ∀ key, (server' key).value? key t = (server key).value? key t)
    (keys : List MetadataKey) : server'.askAll t keys = server.askAll t keys := by
  induction keys with
  | nil => rfl
  | cons key keys ih => rw [askAll, askAll, h key, ih]

theorem Gives.ne {key : MetadataKey} {v : String} (h : server.Gives t key v) : v ≠ "" := by
  obtain ⟨-, -, -, -, -, -, -, -, hne⟩ := h
  exact hne

end MetadataServer

namespace Detector

def without (d : Detector) (name : String) : Detector :=
  { d with captured := d.captured.filter (·.1 != name) }

theorem nonEmpty?_without (d : Detector) (name other : String) :
    (d.without name).nonEmpty? other = if other = name then none else d.nonEmpty? other := by
  unfold nonEmpty? without
  rw [List.find?_filter]
  split
  · rename_i heq
    subst heq
    rw [List.find?_eq_none.mpr]
    · rfl
    · simp
  · rename_i hne
    have hsame (e : String × String) :
        decide ((e.1 != name) = true ∧ (e.1 == other) = true) = (e.1 == other) := by
      by_cases he : e.1 = other
      · simp [he, hne]
      · simp [he]
    rw [funext hsame]

theorem ne_of_nonEmpty? {d : Detector} {name v : String} (h : d.nonEmpty? name = some v) :
    v ≠ "" := by
  rw [nonEmpty?, Option.filter_eq_some_iff] at h
  simpa using h.2

end Detector

namespace Detection

variable {d d' : Detector} {project : String} {server server' : MetadataServer}
  {attributes : List Attribute} {key v : String} {p : Platform}

theorem ofFunction_congr (h : ∀ name, d'.nonEmpty? name = d.nonEmpty? name) (p : Platform) :
    ofFunction d' p = ofFunction d p := by
  cases p <;> simp only [ofFunction, h]

/-- The platform that the variables show, the texts in them, and the values of the answers make the
result. -/
theorem result_congr (timeout : d'.timeoutMillis = d.timeoutMillis)
    (platform : d'.platform? = d.platform?) (texts : ∀ name, d'.nonEmpty? name = d.nonEmpty? name)
    (answers : ∀ key, (server' key).value? key d.timeoutMillis =
      (server key).value? key d.timeoutMillis) :
    (detect d' project server').result = (detect d project server).result := by
  have hplatform (found : Option String) : platformWith d' found = platformWith d found := by
    rw [platformWith, platformWith, platform]
  have hknown (found : Option String) : known d' project found = known d project found := by
    rw [known, known, hplatform, funext (ofFunction_congr texts)]
  cases hproject : (server .projectId).value? .projectId d.timeoutMillis with
  | error e =>
    rw [(detect_of_error d project server hproject).2, (detect_of_error d' project server'
      (by rw [timeout, answers, hproject])).2]
  | ok found =>
    rw [result_eq hproject, result_eq (by rw [timeout, answers, hproject]), timeout, hknown,
      hplatform, MetadataServer.askAll_congr answers]

theorem RunsOn.unique {q : Platform} (hp : RunsOn d server p) (hq : RunsOn d server q) : p = q := by
  cases hp with
  | shown p hshown =>
    cases hq with
    | shown q hshown' => exact Option.some.inj (hshown.symm.trans hshown')
    | machine hidden onCloud => exact absurd (hshown.symm.trans hidden) (by simp)
  | machine hidden onCloud =>
    cases hq with
    | shown q hshown => exact absurd (hshown.symm.trans hidden) (by simp)
    | machine hidden' onCloud' => rfl

theorem mem_asked (h : (detect d project server).result = .ok attributes) {asked : MetadataKey} :
    asked ∈ (detect d project server).asked ↔
      asked = .projectId ∨ OnCloud d server ∧ ∃ p, RunsOn d server p ∧ asked ∈ p.keys := by
  cases hproject : (server .projectId).value? .projectId d.timeoutMillis with
  | error e =>
    rw [(detect_of_error d project server hproject).2] at h
    cases h
  | ok found =>
    have hfound := MetadataServer.found?_of_ok hproject
    rw [asked_eq d project server hproject, List.mem_cons, ← mem_furtherKeys hfound]
    rw [result_eq hproject] at h
    have hasks := MetadataServer.asks_askAll server d.timeoutMillis
      (furtherKeys (platformWith d found) found.isSome)
    cases hvalues :
      (server.askAll d.timeoutMillis (furtherKeys (platformWith d found) found.isSome)).2 with
    | error e =>
      rw [hvalues] at h
      cases h
    | ok values =>
      rw [hvalues] at hasks
      rw [hasks.of_none]

/-- The answers of which only the text behind the last slash is kept. -/
def pathKeys : List MetadataKey :=
  [.zone, .region, .machineType]

theorem lastSegment_eq_empty_iff : lastSegment v = "" ↔ v = "" ∨ v.toList.getLast? = some '/' := by
  rw [lastSegment, String.ofList_eq_empty_iff, Text.lastPiece_eq_nil_iff, String.toList_eq_nil_iff]

theorem ne_of_regionOfZone? {zone region : String} (h : regionOfZone? zone = some region) :
    region ≠ "" := by
  obtain ⟨⟨name, suffix⟩, -, hcut⟩ := Option.bind_eq_some_iff.mp h
  dsimp only at hcut
  split at hcut
  · cases hcut
  · rename_i hfull
    cases hcut
    rw [Ne, String.ofList_eq_empty_iff]
    rintro rfl
    simp at hfull

/-- Text behind the last slash is there, if the answer does not end in one. -/
theorem lastSegment_ne {asked : MetadataKey} (given : server.Gives d.timeoutMillis asked v)
    (hend : v.toList.getLast? ≠ some '/') : lastSegment v ≠ "" :=
  fun hnone => (lastSegment_eq_empty_iff.mp hnone).elim given.ne hend

theorem ne_of_documented (h : Documented d project server key v)
    (uncut : OnCloud d server → ∀ p, RunsOn d server p → ∀ asked ∈ p.keys, asked ∈ pathKeys →
      ∀ w, server.Gives d.timeoutMillis asked w → w.toList.getLast? ≠ some '/') : v ≠ "" := by
  have hfunction {names : List String} (hfirst : names.findSome? d.nonEmpty? = some v) :
      v ≠ "" := by
    obtain ⟨name, -, hname⟩ := List.exists_of_findSome?_eq_some hfirst
    exact Detector.ne_of_nonEmpty? hname
  cases h with
  | provider => decide
  | account v given => exact given.ne
  | configuredAccount off configured => exact configured
  | platform p runs => cases p <;> decide
  | functionName p v runs first => exact hfunction first
  | functionVersion p v runs first => exact hfunction first
  | functionInstance p v runs first => exact hfunction first
  | zone p v runs machine onCloud given =>
    exact lastSegment_ne given
      (uncut onCloud p runs .zone ((p.mem_keys_iff _).mpr machine) (by decide) v given)
  | regionOfZone p w region runs machine onCloud given cut => exact ne_of_regionOfZone? cut
  | region p v runs serverless onCloud given =>
    exact lastSegment_ne given
      (uncut onCloud p runs .region ((p.mem_keys_iff _).mpr serverless) (by decide) v given)
  | hostId v onCloud given => exact given.ne
  | hostName p v runs machine onCloud given => exact given.ne
  | hostType p v runs machine onCloud given =>
    exact lastSegment_ne given
      (uncut onCloud p runs .machineType ((p.mem_keys_iff _).mpr machine) (by decide) v given)
  | cluster v runs onCloud given => exact given.ne

theorem documented_empty (project : String) {asked : MetadataKey} {w : String}
    (hpath : asked ∈ pathKeys) (onCloud : OnCloud d server) (runs : RunsOn d server p)
    (hp : asked ∈ p.keys) (given : server.Gives d.timeoutMillis asked w)
    (hend : w.toList.getLast? = some '/') : ∃ key, Documented d project server key "" := by
  have hnone : lastSegment w = "" := lastSegment_eq_empty_iff.mpr (.inr hend)
  rw [Platform.mem_keys_iff] at hp
  rw [← hnone]
  cases asked with
  | zone => exact ⟨_, .zone p w runs hp onCloud given⟩
  | region => exact ⟨_, .region p w runs hp onCloud given⟩
  | machineType => exact ⟨_, .hostType p w runs hp onCloud given⟩
  | projectId | instanceId | instanceName | clusterName => exact absurd hpath (by decide)

/-- The attributes of a function, with the variables that name it, its version and its instance. -/
def functionVariables (p : Platform) : List (String × List String) :=
  [("faas.name", p.nameVariables), ("faas.version", p.versionVariables),
    ("faas.instance", p.instanceVariables)]

/-- What has no text is treated as if it were not there, and no attribute comes of it. -/
structure LeavesOut (d : Detector) (project : String) (server : MetadataServer)
    (attributes : List Attribute) : Prop where
  silence : (detect d project (server.heard d.timeoutMillis)).result = .ok attributes
  /-- That a variable is there may still show the platform. -/
  blank : ∀ name, d.nonEmpty? name = none → (d.without name).platform? = d.platform? →
    (detect (d.without name) project server).result = .ok attributes
  account : (∀ v, ¬ server.Gives d.timeoutMillis .projectId v) → project = "" →
    "cloud.account.id" ∉ attributes.map Prod.fst
  function : ∀ p, RunsOn d server p → ∀ e ∈ functionVariables p,
    (∀ name ∈ e.2, d.nonEmpty? name = none) → e.1 ∉ attributes.map Prod.fst
  answer : ∀ asked ∈ (detect d project server).asked, asked ≠ .projectId →
    (∀ v, ¬ server.Gives d.timeoutMillis asked v) →
    ∀ name ∈ keysOf asked, name ∉ attributes.map Prod.fst

theorem mem_functionVariables : (key, v) ∈ ofFunction d p ↔
    ∃ e ∈ functionVariables p, key = e.1 ∧ e.2.findSome? d.nonEmpty? = some v := by
  simp [mem_ofFunction, functionVariables]

theorem foundKeys_of_mem {asked : MetadataKey} (hp : asked ∈ p.keys) :
    ∀ name ∈ keysOf asked, name ∈ foundKeys := by
  revert asked
  cases p <;> decide

theorem eq_of_mem_keysOf {a b : MetadataKey} (ha : a ∈ p.keys) (hb : b ∈ p.keys) {name : String}
    (hna : name ∈ keysOf a) (hnb : name ∈ keysOf b) : a = b := by
  have hall : ∀ a ∈ p.keys, ∀ b ∈ p.keys, ∀ name ∈ keysOf a, name ∈ keysOf b → a = b := by
    cases p <;> decide
  exact hall a ha b hb name hna hnb

theorem not_mem_foundKeys : ∀ name ∈ knownKeys, name ∉ foundKeys := by
  decide

theorem known_of_mem (h : (detect d project server).result = .ok attributes)
    (hkey : key ∈ knownKeys) (hmem : (key, v) ∈ attributes) :
    ∃ found, server.found? d.timeoutMillis .projectId = found ∧
      (key, v) ∈ known d project found := by
  obtain ⟨found, values, hfound, hvalues, rfl⟩ := of_result h
  rcases List.mem_append.mp hmem with hmem | hmem
  · exact ⟨found, hfound, hmem⟩
  · obtain ⟨asked, w, p, -, -, hp, -, hv⟩ := (mem_found hfound hvalues).mp hmem
    have hfoundKey := (keys_ofFound asked w).subset (List.mem_map_of_mem hv)
    exact absurd (foundKeys_of_mem hp key hfoundKey) (not_mem_foundKeys key hkey)

theorem answered_of_mem (h : (detect d project server).result = .ok attributes)
    (hkey : key ∈ foundKeys) (hmem : (key, v) ∈ attributes) :
    ∃ asked w p, RunsOn d server p ∧ asked ∈ p.keys ∧ server.Gives d.timeoutMillis asked w ∧
      key ∈ keysOf asked := by
  obtain ⟨found, values, hfound, hvalues, rfl⟩ := of_result h
  rcases List.mem_append.mp hmem with hmem | hmem
  · have hknownKey := (keys_known d project found).subset (List.mem_map_of_mem hmem)
    exact absurd hkey (not_mem_foundKeys key hknownKey)
  · obtain ⟨asked, w, p, -, runs, hp, given, hv⟩ := (mem_found hfound hvalues).mp hmem
    have hanswered := (keys_ofFound asked w).subset (List.mem_map_of_mem hv)
    exact ⟨asked, w, p, runs, hp, given, hanswered⟩

theorem not_mem_of_silent (h : (detect d project server).result = .ok attributes)
    (runs : RunsOn d server p) {asked : MetadataKey} (hp : asked ∈ p.keys)
    (silent : ∀ v, ¬ server.Gives d.timeoutMillis asked v) :
    ∀ name ∈ keysOf asked, name ∉ attributes.map Prod.fst := by
  intro name hname hmem
  obtain ⟨⟨key, v⟩, hv, rfl⟩ := List.mem_map.mp hmem
  obtain ⟨asked', w, p', runs', hp', given, hkey⟩ :=
    answered_of_mem h (foundKeys_of_mem hp key hname) hv
  obtain rfl := runs.unique runs'
  obtain rfl := eq_of_mem_keysOf hp hp' hname hkey
  exact silent w given

theorem not_mem_of_unset (h : (detect d project server).result = .ok attributes)
    (runs : RunsOn d server p) {e : String × List String} (he : e ∈ functionVariables p)
    (unset : ∀ name ∈ e.2, d.nonEmpty? name = none) : e.1 ∉ attributes.map Prod.fst := by
  intro hmem
  obtain ⟨⟨key, v⟩, hv, rfl⟩ := List.mem_map.mp hmem
  have hname : e.1 ∈ (functionVariables p).map Prod.fst := List.mem_map_of_mem he
  have hkeys : ∀ key ∈ (functionVariables p).map Prod.fst, key ∈ knownKeys ∧
      key ≠ "cloud.provider" ∧ key ≠ "cloud.account.id" ∧ key ≠ "cloud.platform" := by
    cases p <;> decide
  obtain ⟨hknown, hprovider, haccount, hplatform⟩ := hkeys e.1 hname
  obtain ⟨found, hfound, hmem⟩ := known_of_mem h hknown hv
  rcases (mem_known hfound).mp hmem with ⟨heq, -⟩ | ⟨heq, -⟩ | ⟨heq, -⟩ | ⟨p', runs', hfunction⟩
  · exact hprovider heq
  · exact haccount heq
  · exact hplatform heq
  · obtain rfl := runs.unique runs'
    obtain ⟨e', he', heq, hfirst⟩ := mem_functionVariables.mp hfunction
    obtain ⟨name, hvariable, hset⟩ := List.exists_of_findSome?_eq_some hfirst
    have hdistinct : ∀ a ∈ functionVariables p, ∀ b ∈ functionVariables p, a.1 = b.1 → a = b := by
      cases p <;> decide
    obtain rfl := hdistinct e he e' he' heq
    rw [unset name hvariable] at hset
    cases hset

theorem leavesOut (h : (detect d project server).result = .ok attributes) :
    LeavesOut d project server attributes := by
  refine ⟨?_, ?_, ?_, ?_, ?_⟩
  · rw [← h]
    exact result_congr rfl rfl (fun _ => rfl) (server.value?_heard d.timeoutMillis)
  · intro name hname hplatform
    rw [← h]
    refine result_congr rfl hplatform (fun other => ?_) fun _ => rfl
    rw [Detector.nonEmpty?_without]
    split
    · rename_i heq
      rw [heq, hname]
    · rfl
  · intro silent hproject hmem
    obtain ⟨⟨key, v⟩, hv, rfl⟩ := List.mem_map.mp hmem
    obtain ⟨found, hfound, hmem⟩ := known_of_mem h (by decide) hv
    rcases (mem_known hfound).mp hmem with ⟨heq, -⟩ | ⟨-, haccount⟩ | ⟨heq, -⟩ | ⟨p, -, hfunction⟩
    · simp at heq
    · rcases (account?_eq_some_iff hfound).mp haccount with given | ⟨-, configured, -⟩
      · exact silent v given
      · exact configured hproject
    · simp at heq
    · simp [mem_ofFunction] at hfunction
  · exact fun p runs e he unset => not_mem_of_unset h runs he unset
  · intro asked hasked hne silent
    rcases (mem_asked h).mp hasked with heq | ⟨-, p, runs, hp⟩
    · exact absurd heq hne
    · exact not_mem_of_silent h runs hp silent

/-- What is found has some text in it, unless an answer is cut down to nothing. What has no text is
left out. -/
theorem detect_nonempty_iff (d : Detector) (project : String) (server : MetadataServer)
    (attributes : List Attribute) (h : (detect d project server).result = .ok attributes) :
    ((∀ a ∈ attributes, a.2 ≠ "") ↔
      ∀ asked ∈ (detect d project server).asked, asked ∈ pathKeys →
        ∀ v, server.Gives d.timeoutMillis asked v → v.toList.getLast? ≠ some '/') ∧
      LeavesOut d project server attributes := by
  refine ⟨⟨?_, ?_⟩, leavesOut h⟩
  · intro hfull asked hasked hpath v given hend
    rcases (mem_asked h).mp hasked with rfl | ⟨onCloud, p, runs, hp⟩
    · exact absurd hpath (by decide)
    · obtain ⟨key, hempty⟩ := documented_empty project hpath onCloud runs hp given hend
      exact hfull (key, "") ((mem_attributes_iff h).mpr hempty) rfl
  · intro huncut a ha
    refine ne_of_documented ((mem_attributes_iff h).mp ha) fun onCloud p runs asked hp hpath => ?_
    exact huncut asked ((mem_asked h).mpr (.inr ⟨onCloud, p, runs, hp⟩)) hpath

/-- The machine's name is blank, and so it is left out. -/
theorem detect_nonempty_node :
    let attributes := [("cloud.provider", "gcp"), ("cloud.account.id", "acme"),
      ("cloud.platform", "gcp_kubernetes_engine"), ("cloud.region", "europe-west4"),
      ("cloud.availability_zone", "europe-west4-b"), ("host.id", "42"), ("host.type", "e2-medium")]
    (detect nodeDetector "configured" nodeServer).result = .ok attributes ∧
      (∀ asked ∈ (detect nodeDetector "configured" nodeServer).asked, asked ∈ pathKeys →
        ∀ v, nodeServer.Gives 2000 asked v → v.toList.getLast? ≠ some '/') ∧
      (∀ v, ¬ nodeServer.Gives 2000 .instanceName v) ∧ "host.name" ∉ attributes.map Prod.fst := by
  intro attributes
  have h : (detect nodeDetector "configured" nodeServer).result = .ok attributes := by
    rfl
  have hsilent : ∀ v, ¬ nodeServer.Gives 2000 .instanceName v := by
    intro v given
    have hfound : nodeServer.found? 2000 .instanceName = none := by
      rfl
    rw [MetadataServer.found?_eq_some_iff.mpr given] at hfound
    cases hfound
  obtain ⟨hnonempty, hleft⟩ := detect_nonempty_iff nodeDetector "configured" nodeServer attributes h
  exact ⟨h, hnonempty.mp (by decide), hsilent,
    hleft.answer .instanceName (by decide) (by decide) hsilent "host.name" (by decide)⟩

/-- A machine that is told of no zone and no type, though the answers have text. -/
def slashServer : MetadataServer
  | .projectId => .answered 5 200 (some "acme")
  | .zone => .answered 5 200 (some "projects/1/zones/")
  | .machineType => .answered 5 200 (some "projects/1/machineTypes/\n")
  | _ => .answered 5 404 (some "")

theorem detect_empty_zone :
    (detect ⟨"http://metadata", [], 2000⟩ "" slashServer).result =
      .ok [("cloud.provider", "gcp"), ("cloud.account.id", "acme"),
        ("cloud.platform", "gcp_compute_engine"), ("cloud.availability_zone", ""),
        ("host.type", "")] := by
  rfl

end Detection

end TracedService
