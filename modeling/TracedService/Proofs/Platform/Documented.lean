import TracedService.Platform.Detection

/-! What detection finds is what is documented: one row for each attribute, which says on which
platforms it is there and where its value comes from. -/

namespace TracedService

/-- The server gives a value for the key: it answers in time and with success, and the text has
something in it besides blanks. -/
def MetadataServer.Gives (server : MetadataServer) (timeoutMillis : Nat) (key : MetadataKey)
    (v : String) : Prop :=
  ∃ delay status text, server key = .answered delay status (some text) ∧ delay < timeoutMillis ∧
    200 ≤ status ∧ status < 300 ∧ v = Text.trimmed text ∧ v ≠ ""

def MetadataServer.found? (server : MetadataServer) (timeoutMillis : Nat) (key : MetadataKey) :
    Option String :=
  ((server key).value? key timeoutMillis).toOption.join

namespace MetadataServer

variable {server : MetadataServer} {t : Nat} {key : MetadataKey} {keys : List MetadataKey}
  {v : String} {values : List (MetadataKey × String)}

theorem value?_eq_some_iff :
    (server key).value? key t = .ok (some v) ↔ server.Gives t key v := by
  constructor
  · intro h
    unfold MetadataAnswer.value? at h
    split at h
    · cases h
    · rename_i delay status body hanswer
      split at h
      · cases h
      · rename_i hfound
        split at h
        · rename_i hstatus
          split at h
          · cases h
          · rename_i text
            split at h
            · cases h
            · rename_i hblank
              cases h
              simp only [Bool.or_eq_true, Bool.and_eq_true, decide_eq_true_eq, not_or,
                Nat.not_le] at hfound hstatus
              exact ⟨delay, status, text, hanswer, hfound.1, hstatus.1, hstatus.2, rfl,
                (not_congr Text.isBlankText_iff).mp hblank⟩
        · cases h
  · rintro ⟨delay, status, text, hanswer, hdelay, hlow, hhigh, rfl, hfull⟩
    have hblank : ¬ Text.isBlankText text = true := (not_congr Text.isBlankText_iff).mpr hfull
    rw [hanswer, MetadataAnswer.value?, if_neg (by simp; omega), if_pos (by simp; omega)]
    simp [hblank]

theorem found?_eq_some_iff : server.found? t key = some v ↔ server.Gives t key v := by
  rw [← value?_eq_some_iff, found?]
  cases (server key).value? key t with
  | error e => simp [Except.toOption]
  | ok value => simp [Except.toOption]

theorem found?_of_ok {value : Option String} (h : (server key).value? key t = .ok value) :
    server.found? t key = value := by
  rw [found?, h]
  rfl

/-- Questions that all have their answers give the values that are there, in order. -/
theorem values_of_askAll (h : (server.askAll t keys).2 = .ok values) :
    values = keys.filterMap fun key => (server.found? t key).map fun v => (key, v) := by
  induction keys generalizing values with
  | nil =>
    cases h
    rfl
  | cons key keys ih =>
    rw [askAll] at h
    split at h
    · cases h
    · rename_i value hvalue
      change (server.askAll t keys).2.map _ = .ok values at h
      cases hrest : (server.askAll t keys).2 with
      | error e =>
        rw [hrest] at h
        cases h
      | ok rest =>
        rw [hrest] at h
        cases h
        rw [List.filterMap_cons, ← ih hrest, found?_of_ok hvalue]
        cases value <;> rfl

theorem mem_of_askAll (h : (server.askAll t keys).2 = .ok values) :
    (key, v) ∈ values ↔ key ∈ keys ∧ server.Gives t key v := by
  rw [values_of_askAll h, List.mem_filterMap]
  constructor
  · rintro ⟨key', hkey, hv⟩
    obtain ⟨v', hv', heq⟩ := Option.map_eq_some_iff.mp hv
    cases heq
    exact ⟨hkey, found?_eq_some_iff.mp hv'⟩
  · rintro ⟨hkey, hv⟩
    exact ⟨key, hkey, by rw [found?_eq_some_iff.mpr hv]; rfl⟩

end MetadataServer

namespace Platform

/-- The variables that name a serverless function, the first choice first. -/
def nameVariables : Platform → List String
  | cloudRun | cloudFunctions => ["K_SERVICE", "FUNCTION_TARGET"]
  | cloudRunJob => ["CLOUD_RUN_JOB"]
  | appEngine => ["GAE_SERVICE"]
  | kubernetesEngine | computeEngine => []

def versionVariables : Platform → List String
  | cloudRun | cloudFunctions => ["K_REVISION"]
  | appEngine => ["GAE_VERSION"]
  | cloudRunJob | kubernetesEngine | computeEngine => []

def instanceVariables : Platform → List String
  | cloudRunJob => ["CLOUD_RUN_EXECUTION"]
  | appEngine => ["GAE_INSTANCE"]
  | cloudRun | cloudFunctions | kubernetesEngine | computeEngine => []

def HasMachine (p : Platform) : Prop :=
  p = computeEngine ∨ p = kubernetesEngine

instance : DecidablePred HasMachine := fun p =>
  inferInstanceAs (Decidable (p = computeEngine ∨ p = kubernetesEngine))

theorem mem_keys_iff (p : Platform) (key : MetadataKey) :
    key ∈ p.keys ↔
      match key with
      | .projectId => False
      | .region => ¬ p.HasMachine
      | .instanceId => True
      | .zone | .instanceName | .machineType => p.HasMachine
      | .clusterName => p = kubernetesEngine := by
  cases p <;> cases key <;> decide

end Platform

namespace Detection

/-- The metadata server knows the project. -/
def OnCloud (d : Detector) (server : MetadataServer) : Prop :=
  ∃ project, server.Gives d.timeoutMillis .projectId project

/-- The platform is the one that the environment shows. Where it shows none, the process runs on a
machine of the cloud, if it is on the cloud at all. -/
inductive RunsOn (d : Detector) (server : MetadataServer) : Platform → Prop
  | shown (p : Platform) (h : d.platform? = some p) : RunsOn d server p
  | machine (hidden : d.platform? = none) (onCloud : OnCloud d server) :
      RunsOn d server .computeEngine

/-- The attributes of a process, by key and value. -/
inductive Documented (d : Detector) (project : String) (server : MetadataServer) :
    String → String → Prop
  | provider : Documented d project server "cloud.provider" "gcp"
  | account (v : String) (given : server.Gives d.timeoutMillis .projectId v) :
      Documented d project server "cloud.account.id" v
  | configuredAccount (off : ¬ OnCloud d server) (configured : project ≠ "") :
      Documented d project server "cloud.account.id" project
  | platform (p : Platform) (runs : RunsOn d server p) :
      Documented d project server "cloud.platform" p.label
  | functionName (p : Platform) (v : String) (runs : RunsOn d server p)
      (first : p.nameVariables.findSome? d.nonEmpty? = some v) :
      Documented d project server "faas.name" v
  | functionVersion (p : Platform) (v : String) (runs : RunsOn d server p)
      (first : p.versionVariables.findSome? d.nonEmpty? = some v) :
      Documented d project server "faas.version" v
  | functionInstance (p : Platform) (v : String) (runs : RunsOn d server p)
      (first : p.instanceVariables.findSome? d.nonEmpty? = some v) :
      Documented d project server "faas.instance" v
  | zone (p : Platform) (v : String) (runs : RunsOn d server p) (machine : p.HasMachine)
      (onCloud : OnCloud d server) (given : server.Gives d.timeoutMillis .zone v) :
      Documented d project server "cloud.availability_zone" (lastSegment v)
  | regionOfZone (p : Platform) (v region : String) (runs : RunsOn d server p)
      (machine : p.HasMachine) (onCloud : OnCloud d server)
      (given : server.Gives d.timeoutMillis .zone v)
      (cut : regionOfZone? (lastSegment v) = some region) :
      Documented d project server "cloud.region" region
  | region (p : Platform) (v : String) (runs : RunsOn d server p) (serverless : ¬ p.HasMachine)
      (onCloud : OnCloud d server) (given : server.Gives d.timeoutMillis .region v) :
      Documented d project server "cloud.region" (lastSegment v)
  | hostId (v : String) (onCloud : OnCloud d server)
      (given : server.Gives d.timeoutMillis .instanceId v) :
      Documented d project server "host.id" v
  | hostName (p : Platform) (v : String) (runs : RunsOn d server p) (machine : p.HasMachine)
      (onCloud : OnCloud d server) (given : server.Gives d.timeoutMillis .instanceName v) :
      Documented d project server "host.name" v
  | hostType (p : Platform) (v : String) (runs : RunsOn d server p) (machine : p.HasMachine)
      (onCloud : OnCloud d server) (given : server.Gives d.timeoutMillis .machineType v) :
      Documented d project server "host.type" (lastSegment v)
  | cluster (v : String) (runs : RunsOn d server .kubernetesEngine) (onCloud : OnCloud d server)
      (given : server.Gives d.timeoutMillis .clusterName v) :
      Documented d project server "k8s.cluster.name" v

variable {d : Detector} {project : String} {server : MetadataServer}
  {attributes : List Attribute} {key v : String} {p : Platform}

/-- The platform, with what was found out about the project. -/
def platformWith (d : Detector) (found : Option String) : Option Platform :=
  d.platform? <|> (if found.isSome then some .computeEngine else none)

/-- The attributes that need no further question. -/
def known (d : Detector) (project : String) (found : Option String) : List Attribute :=
  [("cloud.provider", "gcp")] ++ optional "cloud.account.id" (account? found project) ++
    optional "cloud.platform" ((platformWith d found).map Platform.label) ++
    ((platformWith d found).map (ofFunction d)).getD []

theorem result_eq {found : Option String}
    (h : (server .projectId).value? .projectId d.timeoutMillis = .ok found) :
    (detect d project server).result =
      (server.askAll d.timeoutMillis (furtherKeys (platformWith d found) found.isSome)).2.map
        fun values => known d project found ++ values.flatMap ofFound := by
  unfold detect
  rw [h]
  rfl

theorem of_result (h : (detect d project server).result = .ok attributes) :
    ∃ found values, server.found? d.timeoutMillis .projectId = found ∧
      (server.askAll d.timeoutMillis (furtherKeys (platformWith d found) found.isSome)).2 =
        .ok values ∧ attributes = known d project found ++ values.flatMap ofFound := by
  cases hfound : (server .projectId).value? .projectId d.timeoutMillis with
  | error e =>
    unfold detect at h
    rw [hfound] at h
    cases h
  | ok found =>
    rw [result_eq hfound] at h
    cases hvalues :
      (server.askAll d.timeoutMillis (furtherKeys (platformWith d found) found.isSome)).2 with
    | error e =>
      rw [hvalues] at h
      cases h
    | ok values =>
      rw [hvalues] at h
      cases h
      exact ⟨found, values, MetadataServer.found?_of_ok hfound, hvalues, rfl⟩

@[simp] theorem mem_optional {name : String} {value : Option String} :
    (key, v) ∈ optional name value ↔ key = name ∧ value = some v := by
  cases value <;> simp [optional, eq_comm]

theorem findSome?_pair (f : String → Option String) (a b : String) :
    [a, b].findSome? f = (f a <|> f b) := by
  rw [List.findSome?_cons, List.findSome?_singleton]
  cases f a <;> rfl

theorem mem_ofFunction :
    (key, v) ∈ ofFunction d p ↔
      key = "faas.name" ∧ p.nameVariables.findSome? d.nonEmpty? = some v ∨
      key = "faas.version" ∧ p.versionVariables.findSome? d.nonEmpty? = some v ∨
      key = "faas.instance" ∧ p.instanceVariables.findSome? d.nonEmpty? = some v := by
  cases p <;> simp [ofFunction, Platform.nameVariables, Platform.versionVariables,
    Platform.instanceVariables, findSome?_pair]

variable {found : Option String} {values : List (MetadataKey × String)}

theorem isSome_iff (h : server.found? d.timeoutMillis .projectId = found) :
    found.isSome = true ↔ OnCloud d server := by
  rw [← h, Option.isSome_iff_exists]
  exact exists_congr fun v => MetadataServer.found?_eq_some_iff

theorem platformWith_eq_some_iff (h : server.found? d.timeoutMillis .projectId = found) :
    platformWith d found = some p ↔ RunsOn d server p := by
  rw [platformWith]
  constructor
  · intro hp
    cases hshown : d.platform? with
    | some q =>
      rw [hshown] at hp
      cases hp
      exact .shown p hshown
    | none =>
      rw [hshown] at hp
      split at hp
      · rename_i hsome
        cases hp
        exact .machine hshown ((isSome_iff h).mp hsome)
      · cases hp
  · intro hp
    cases hp with
    | shown p hshown => rw [hshown]; rfl
    | machine hidden onCloud => rw [hidden, if_pos ((isSome_iff h).mpr onCloud)]; rfl

theorem account?_eq_some_iff (h : server.found? d.timeoutMillis .projectId = found) :
    account? found project = some v ↔
      server.Gives d.timeoutMillis .projectId v ∨
        ¬ OnCloud d server ∧ project ≠ "" ∧ v = project := by
  rw [← isSome_iff h, ← MetadataServer.found?_eq_some_iff, h]
  cases found with
  | some w => simp [account?]
  | none => simp [account?, eq_comm (a := v)]

theorem mem_furtherKeys (h : server.found? d.timeoutMillis .projectId = found)
    {asked : MetadataKey} :
    asked ∈ furtherKeys (platformWith d found) found.isSome ↔
      OnCloud d server ∧ ∃ p, RunsOn d server p ∧ asked ∈ p.keys := by
  simp only [← platformWith_eq_some_iff h, ← isSome_iff h]
  cases platformWith d found with
  | none => simp [furtherKeys]
  | some p => cases found.isSome <;> simp [furtherKeys]

theorem mem_found (hfound : server.found? d.timeoutMillis .projectId = found)
    (hvalues : (server.askAll d.timeoutMillis
      (furtherKeys (platformWith d found) found.isSome)).2 = .ok values) :
    (key, v) ∈ values.flatMap ofFound ↔
      ∃ asked w p, OnCloud d server ∧ RunsOn d server p ∧ asked ∈ p.keys ∧
        server.Gives d.timeoutMillis asked w ∧ (key, v) ∈ ofFound (asked, w) := by
  rw [List.mem_flatMap]
  constructor
  · rintro ⟨⟨asked, w⟩, hmem, hv⟩
    obtain ⟨hasked, given⟩ := (MetadataServer.mem_of_askAll hvalues).mp hmem
    obtain ⟨onCloud, p, runs, hp⟩ := (mem_furtherKeys hfound).mp hasked
    exact ⟨asked, w, p, onCloud, runs, hp, given, hv⟩
  · rintro ⟨asked, w, p, onCloud, runs, hp, given, hv⟩
    have hasked := (mem_furtherKeys hfound).mpr ⟨onCloud, p, runs, hp⟩
    exact ⟨(asked, w), (MetadataServer.mem_of_askAll hvalues).mpr ⟨hasked, given⟩, hv⟩

theorem documented_of_found {asked : MetadataKey} {w : String} (onCloud : OnCloud d server)
    (runs : RunsOn d server p) (hp : asked ∈ p.keys)
    (given : server.Gives d.timeoutMillis asked w) (hv : (key, v) ∈ ofFound (asked, w)) :
    Documented d project server key v := by
  rw [Platform.mem_keys_iff] at hp
  cases asked with
  | projectId => cases hp
  | zone =>
    rcases List.mem_append.mp hv with hv | hv
    · obtain ⟨rfl, cut⟩ := mem_optional.mp hv
      exact .regionOfZone p w v runs hp onCloud given cut
    · cases List.mem_singleton.mp hv
      exact .zone p w runs hp onCloud given
  | region =>
    cases List.mem_singleton.mp hv
    exact .region p w runs hp onCloud given
  | instanceId =>
    cases List.mem_singleton.mp hv
    exact .hostId v onCloud given
  | instanceName =>
    cases List.mem_singleton.mp hv
    exact .hostName p v runs hp onCloud given
  | machineType =>
    cases List.mem_singleton.mp hv
    exact .hostType p w runs hp onCloud given
  | clusterName =>
    cases List.mem_singleton.mp hv
    obtain rfl : p = .kubernetesEngine := hp
    exact .cluster v runs onCloud given

theorem exists_runsOn (onCloud : OnCloud d server) : ∃ p, RunsOn d server p := by
  cases hshown : d.platform? with
  | some p => exact ⟨p, .shown p hshown⟩
  | none => exact ⟨_, .machine hshown onCloud⟩

theorem mem_known (h : server.found? d.timeoutMillis .projectId = found) :
    (key, v) ∈ known d project found ↔
      (key = "cloud.provider" ∧ v = "gcp") ∨
      (key = "cloud.account.id" ∧ account? found project = some v) ∨
      (key = "cloud.platform" ∧ ∃ p, RunsOn d server p ∧ p.label = v) ∨
      ∃ p, RunsOn d server p ∧ (key, v) ∈ ofFunction d p := by
  simp only [← platformWith_eq_some_iff h, known, List.mem_append, List.mem_singleton,
    Prod.mk.injEq, mem_optional, Option.map_eq_some_iff, or_assoc]
  cases platformWith d found <;> simp

theorem documented_of_known (h : server.found? d.timeoutMillis .projectId = found)
    (hv : (key, v) ∈ known d project found) : Documented d project server key v := by
  rcases (mem_known h).mp hv with ⟨rfl, rfl⟩ | ⟨rfl, haccount⟩ | ⟨rfl, p, runs, rfl⟩ |
    ⟨p, runs, hfunction⟩
  · exact .provider
  · rcases (account?_eq_some_iff h).mp haccount with given | ⟨off, configured, rfl⟩
    · exact .account v given
    · exact .configuredAccount off configured
  · exact .platform p runs
  · rcases mem_ofFunction.mp hfunction with ⟨rfl, first⟩ | ⟨rfl, first⟩ | ⟨rfl, first⟩
    · exact .functionName p v runs first
    · exact .functionVersion p v runs first
    · exact .functionInstance p v runs first

/-- What is documented needs no further question, or a platform's question has it for an answer. -/
theorem known_or_found (h : server.found? d.timeoutMillis .projectId = found)
    (hdocumented : Documented d project server key v) :
    (key, v) ∈ known d project found ∨
      ∃ asked w p, OnCloud d server ∧ RunsOn d server p ∧ asked ∈ p.keys ∧
        server.Gives d.timeoutMillis asked w ∧ (key, v) ∈ ofFound (asked, w) := by
  simp only [mem_known h, Platform.mem_keys_iff]
  cases hdocumented with
  | provider => exact .inl (.inl ⟨rfl, rfl⟩)
  | account v given =>
    exact .inl (.inr (.inl ⟨rfl, (account?_eq_some_iff h).mpr (.inl given)⟩))
  | configuredAccount off configured =>
    exact .inl (.inr (.inl ⟨rfl, (account?_eq_some_iff h).mpr (.inr ⟨off, configured, rfl⟩)⟩))
  | platform p runs => exact .inl (.inr (.inr (.inl ⟨rfl, p, runs, rfl⟩)))
  | functionName p v runs first =>
    exact .inl (.inr (.inr (.inr ⟨p, runs, mem_ofFunction.mpr (.inl ⟨rfl, first⟩)⟩)))
  | functionVersion p v runs first =>
    exact .inl (.inr (.inr (.inr ⟨p, runs, mem_ofFunction.mpr (.inr (.inl ⟨rfl, first⟩))⟩)))
  | functionInstance p v runs first =>
    exact .inl (.inr (.inr (.inr ⟨p, runs, mem_ofFunction.mpr (.inr (.inr ⟨rfl, first⟩))⟩)))
  | zone p v runs machine onCloud given =>
    have hv : ("cloud.availability_zone", lastSegment v) ∈ ofFound (.zone, v) :=
      List.mem_append_right _ List.mem_cons_self
    exact .inr ⟨.zone, v, p, onCloud, runs, machine, given, hv⟩
  | regionOfZone p w region runs machine onCloud given cut =>
    have hv : ("cloud.region", v) ∈ ofFound (.zone, w) :=
      List.mem_append_left _ (mem_optional.mpr ⟨rfl, cut⟩)
    exact .inr ⟨.zone, w, p, onCloud, runs, machine, given, hv⟩
  | region p v runs serverless onCloud given =>
    exact .inr ⟨.region, v, p, onCloud, runs, serverless, given, List.mem_cons_self⟩
  | hostId v onCloud given =>
    obtain ⟨p, runs⟩ := exists_runsOn onCloud
    exact .inr ⟨.instanceId, v, p, onCloud, runs, trivial, given, List.mem_cons_self⟩
  | hostName p v runs machine onCloud given =>
    exact .inr ⟨.instanceName, v, p, onCloud, runs, machine, given, List.mem_cons_self⟩
  | hostType p v runs machine onCloud given =>
    exact .inr ⟨.machineType, v, p, onCloud, runs, machine, given, List.mem_cons_self⟩
  | cluster v runs onCloud given =>
    exact .inr ⟨.clusterName, v, _, onCloud, runs, rfl, given, List.mem_cons_self⟩

theorem mem_attributes_iff (h : (detect d project server).result = .ok attributes) :
    (key, v) ∈ attributes ↔ Documented d project server key v := by
  obtain ⟨found, values, hfound, hvalues, rfl⟩ := of_result h
  rw [List.mem_append, mem_found hfound hvalues]
  constructor
  · rintro (hv | ⟨asked, w, p, onCloud, runs, hp, given, hv⟩)
    · exact documented_of_known hfound hv
    · exact documented_of_found onCloud runs hp given hv
  · exact known_or_found hfound

/-- The keys of attributes that need no further question, in their order. -/
def knownKeys : List String :=
  ["cloud.provider", "cloud.account.id", "cloud.platform", "faas.name", "faas.version",
    "faas.instance"]

/-- The keys of attributes that further answers give, in their order. -/
def foundKeys : List String :=
  ["cloud.region", "cloud.availability_zone", "host.id", "host.name", "host.type",
    "k8s.cluster.name"]

/-- The keys of attributes that the answer about one metadata key gives. -/
def keysOf : MetadataKey → List String
  | .projectId => ["cloud.account.id"]
  | .zone => ["cloud.region", "cloud.availability_zone"]
  | .region => ["cloud.region"]
  | .instanceId => ["host.id"]
  | .instanceName => ["host.name"]
  | .machineType => ["host.type"]
  | .clusterName => ["k8s.cluster.name"]

open List (Sublist)

theorem keys_optional (name : String) (value : Option String) :
    Sublist ((optional name value).map Prod.fst) [name] := by
  cases value with
  | none => exact List.nil_sublist _
  | some v => exact List.Sublist.refl _

theorem keys_ofFunction (d : Detector) (p : Platform) :
    Sublist ((ofFunction d p).map Prod.fst) ["faas.name", "faas.version", "faas.instance"] := by
  have hname := keys_optional "faas.name"
  have hversion := keys_optional "faas.version"
  have hinstance := keys_optional "faas.instance"
  cases p with
  | cloudRun | cloudFunctions =>
    rw [ofFunction, List.map_append]
    exact (hname _).append ((hversion _).trans (List.sublist_append_left _ ["faas.instance"]))
  | cloudRunJob =>
    rw [ofFunction, List.map_append]
    exact (hname _).append ((hinstance _).cons "faas.version")
  | appEngine =>
    rw [ofFunction, List.map_append, List.map_append, List.append_assoc]
    exact (hname _).append ((hversion _).append (hinstance _))
  | kubernetesEngine | computeEngine => exact List.nil_sublist _

theorem keys_known (d : Detector) (project : String) (found : Option String) :
    Sublist ((known d project found).map Prod.fst) knownKeys := by
  have hfunction : Sublist ((((platformWith d found).map (ofFunction d)).getD []).map Prod.fst)
      ["faas.name", "faas.version", "faas.instance"] := by
    cases platformWith d found with
    | none => exact List.nil_sublist _
    | some p => exact keys_ofFunction d p
  rw [known, List.map_append, List.map_append, List.map_append]
  exact ((Sublist.refl ["cloud.provider"]).append (keys_optional _ _)).append (keys_optional _ _)
    |>.append hfunction

theorem keys_ofFound (asked : MetadataKey) (w : String) :
    Sublist ((ofFound (asked, w)).map Prod.fst) (keysOf asked) := by
  cases asked with
  | zone =>
    rw [ofFound, List.map_append]
    exact (keys_optional "cloud.region" _).append (Sublist.refl _)
  | _ => exact Sublist.refl _

theorem keys_found (value : MetadataKey → Option String) (keys : List MetadataKey) :
    Sublist (((keys.filterMap fun key => (value key).map fun v => (key, v)).flatMap
      ofFound).map Prod.fst) (keys.flatMap keysOf) := by
  induction keys with
  | nil => exact Sublist.refl _
  | cons asked keys ih =>
    rw [List.filterMap_cons, List.flatMap_cons]
    cases value asked with
    | none => exact ih.trans (List.sublist_append_right _ _)
    | some w =>
      rw [Option.map_some, List.flatMap_cons, List.map_append]
      exact (keys_ofFound asked w).append ih

theorem keys_asked (platform : Option Platform) (onCloud : Bool) :
    Sublist ((furtherKeys platform onCloud).flatMap keysOf) foundKeys := by
  cases platform with
  | none => exact List.nil_sublist _
  | some p =>
    cases onCloud with
    | false => exact List.nil_sublist _
    | true => cases p <;> decide

theorem keys_attributes (h : (detect d project server).result = .ok attributes) :
    Sublist (attributes.map Prod.fst) (knownKeys ++ foundKeys) := by
  obtain ⟨found, values, -, hvalues, rfl⟩ := of_result h
  have hfound := (keys_found (server.found? d.timeoutMillis) _).trans
    (keys_asked (platformWith d found) found.isSome)
  rw [← MetadataServer.values_of_askAll hvalues] at hfound
  rw [List.map_append]
  exact (keys_known d project found).append hfound

theorem nodup_attributes (h : (detect d project server).result = .ok attributes) :
    (attributes.map Prod.fst).Nodup :=
  (keys_attributes h).nodup (by decide)

theorem furtherKeys_off (platform : Option Platform) : furtherKeys platform false = [] := by
  cases platform <;> rfl

/-- Off the cloud there is nothing that a metadata server would have to say. -/
theorem result_off (off : ¬ OnCloud d server)
    (h : (detect d project server).result = .ok attributes) :
    (detect d project fun _ => .unreachable).result = .ok attributes := by
  obtain ⟨found, values, hfound, hvalues, rfl⟩ := of_result h
  cases found with
  | some v => exact absurd ((isSome_iff hfound).mp rfl) off
  | none =>
    rw [Option.isSome_none, furtherKeys_off] at hvalues
    cases hvalues
    rw [@result_eq d project _ none rfl, Option.isSome_none, furtherKeys_off]
    rfl

/-- Detection that succeeds finds the documented attributes and no others, each key once. Where the
metadata server does not know the project, none of them comes from there. -/
theorem detect_documented (d : Detector) (project : String) (server : MetadataServer)
    (attributes : List Attribute) (h : (detect d project server).result = .ok attributes) :
    (attributes.map Prod.fst).Nodup ∧
      (∀ key v, (key, v) ∈ attributes ↔ Documented d project server key v) ∧
      (¬ OnCloud d server → (detect d project fun _ => .unreachable).result = .ok attributes) :=
  ⟨nodup_attributes h, fun _ _ => mem_attributes_iff h, fun off => result_off off h⟩

/-- A node of a cluster whose name is blank. -/
def nodeDetector : Detector where
  base := "http://metadata"
  captured := [("KUBERNETES_SERVICE_HOST", ""), ("GAE_VERSION", "v1")]
  timeoutMillis := 2000

def nodeServer : MetadataServer
  | .projectId => .answered 5 200 (some " acme\n")
  | .zone => .answered 5 200 (some "projects/1/zones/europe-west4-b")
  | .instanceId => .answered 1999 204 (some "42")
  | .instanceName => .answered 5 200 (some "\t ")
  | .machineType => .answered 5 200 (some "projects/1/machineTypes/e2-medium")
  | .clusterName => .answered 2000 200 (some "orders")
  | .region => .unreachable

theorem detect_documented_node :
    (detect nodeDetector "configured" nodeServer).result =
      .ok [("cloud.provider", "gcp"), ("cloud.account.id", "acme"),
        ("cloud.platform", "gcp_kubernetes_engine"), ("cloud.region", "europe-west4"),
        ("cloud.availability_zone", "europe-west4-b"), ("host.id", "42"),
        ("host.type", "e2-medium")] ∧
    ∀ v, ¬ Documented nodeDetector "configured" nodeServer "host.name" v := by
  have h : (detect nodeDetector "configured" nodeServer).result =
      .ok [("cloud.provider", "gcp"), ("cloud.account.id", "acme"),
        ("cloud.platform", "gcp_kubernetes_engine"), ("cloud.region", "europe-west4"),
        ("cloud.availability_zone", "europe-west4-b"), ("host.id", "42"),
        ("host.type", "e2-medium")] := by
    rfl
  refine ⟨h, fun v hv => ?_⟩
  have hmem := ((detect_documented _ _ _ _ h).2.1 "host.name" v).mpr hv
  simp at hmem

end Detection

end TracedService
