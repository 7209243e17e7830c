import TracedService.Platform.Basic

/-! A detector after any number of changes. A variable that was forgotten is gone unless it is set
again, and of several base addresses the last one counts. Main statement: `run_configured`. -/

namespace TracedService

namespace Platform

/-- The variable that is the sign of a platform. A virtual machine has none. -/
def sign? : Platform → Option String
  | cloudFunctions => some "FUNCTION_TARGET"
  | cloudRunJob => some "CLOUD_RUN_JOB"
  | cloudRun => some "K_SERVICE"
  | appEngine => some "GAE_SERVICE"
  | kubernetesEngine => some "KUBERNETES_SERVICE_HOST"
  | computeEngine => none

/-- The platforms that have a sign, the first choice first. -/
def precedence : List Platform :=
  [cloudFunctions, cloudRunJob, cloudRun, appEngine, kubernetesEngine]

def Shown (there : String → Prop) (p : Platform) : Prop :=
  ∃ name, p.sign? = some name ∧ there name

/-- The platform is shown, and none of those before it is. -/
def Foremost (there : String → Prop) (p : Platform) : Prop :=
  Shown there p ∧
    ∃ before after, precedence = before ++ p :: after ∧ ∀ q ∈ before, ¬ Shown there q

theorem mem_precedence_of_shown {there : String → Prop} {p : Platform} (h : Shown there p) :
    p ∈ precedence := by
  obtain ⟨name, hname, -⟩ := h
  cases p with
  | computeEngine => cases hname
  | _ => decide

end Platform

namespace Detector

variable {d d' : Detector} {env env' : Environment} {steps steps' : List Step} {s t : Step}
  {name base : String}

namespace Step

def forgets : Step → Bool
  | forgetVariables => true
  | _ => false

def onBase : Step → Bool
  | setBase _ => true
  | _ => false

def onVariables : Step → Bool
  | setVariable _ _ | forgetVariables => true
  | setBase _ | setTimeout _ => false

/-- The step without the value that it gives to a variable. -/
def unvalued : Step → Step
  | setVariable name _ => setVariable name ""
  | s => s

@[simp] theorem forgets_unvalued (s : Step) : s.unvalued.forgets = s.forgets := by
  cases s <;> rfl

end Step

/-- The step is made, and none that undoes it is made later. -/
def Stands (undoes : Step → Bool) (steps : List Step) (s : Step) : Prop :=
  ∃ before after, steps = before ++ s :: after ∧ ∀ t ∈ after, undoes t = false

variable {undoes : Step → Bool}

@[simp] theorem not_stands_nil : ¬ Stands undoes [] s := by
  rintro ⟨before, after, h, -⟩
  simp at h

theorem stands_cons :
    Stands undoes (t :: steps) s ↔
      s = t ∧ (∀ x ∈ steps, undoes x = false) ∨ Stands undoes steps s := by
  constructor
  · rintro ⟨before, after, h, kept⟩
    cases before with
    | nil =>
      cases h
      exact .inl ⟨rfl, kept⟩
    | cons b before =>
      cases h
      exact .inr ⟨before, after, rfl, kept⟩
  · rintro (⟨rfl, kept⟩ | ⟨before, after, rfl, kept⟩)
    · exact ⟨[], steps, rfl, kept⟩
    · exact ⟨t :: before, after, rfl, kept⟩

theorem stands_append :
    Stands undoes (steps ++ steps') s ↔
      Stands undoes steps s ∧ (∀ x ∈ steps', undoes x = false) ∨ Stands undoes steps' s := by
  induction steps with
  | nil => simp
  | cons t steps ih =>
    rw [List.cons_append, stands_cons, stands_cons, ih, List.forall_mem_append]
    simp only [or_and_right, or_assoc, and_assoc]

theorem stands_iff_mem (h : ∀ x ∈ steps, undoes x = false) : Stands undoes steps s ↔ s ∈ steps := by
  constructor
  · rintro ⟨before, after, rfl, -⟩
    simp
  · intro hs
    obtain ⟨before, after, rfl⟩ := List.append_of_mem hs
    exact ⟨before, after, rfl, fun x hx => h x (by simp [hx])⟩

theorem exists_stands (h : ∃ x ∈ steps, undoes x = true) :
    ∃ s, undoes s = true ∧ Stands undoes steps s := by
  induction steps with
  | nil => simp at h
  | cons t steps ih =>
    by_cases hlater : ∃ x ∈ steps, undoes x = true
    · obtain ⟨s, hs, stands⟩ := ih hlater
      exact ⟨s, hs, stands_cons.mpr (.inr stands)⟩
    · have kept : ∀ x ∈ steps, undoes x = false := by simpa using hlater
      obtain ⟨x, hx, hundoes⟩ := h
      rcases List.mem_cons.mp hx with rfl | hx
      · exact ⟨x, hundoes, stands_cons.mpr (.inl ⟨rfl, kept⟩)⟩
      · exact absurd ⟨x, hx, hundoes⟩ hlater

theorem run_append (d : Detector) (steps steps' : List Step) :
    d.run (steps ++ steps') = (d.run steps).run steps' :=
  List.foldl_append

/-- What is viewed of a detector is the same without the steps that leave the view as it is, if the
others change it by nothing but itself. -/
theorem run_filter {α : Type} (view : Detector → α) (relevant : Step → Bool)
    (frame : ∀ d s, relevant s = false → view (d.apply s) = view d)
    (congr : ∀ d d' s, view d = view d' → view (d.apply s) = view (d'.apply s))
    (h : view d = view d') : view (d.run steps) = view (d'.run (steps.filter relevant)) := by
  -- The two detectors may come apart in all that is not viewed.
  induction steps generalizing d d' with
  | nil => exact h
  | cons s steps ih =>
    change view ((d.apply s).run steps) = _
    cases hs : relevant s with
    | false =>
      rw [List.filter_cons_of_neg (by simp [hs])]
      exact ih ((frame d s hs).trans h)
    | true =>
      rw [List.filter_cons_of_pos hs]
      exact ih (congr d d' s h)

theorem base_run_filter (d : Detector) (steps : List Step) :
    (d.run steps).base = (d.run (steps.filter Step.onBase)).base := by
  refine run_filter base Step.onBase (fun d s hs => ?_) (fun d d' s h => ?_) rfl
  · cases s with
    | setBase base => cases hs
    | _ => rfl
  · cases s with
    | setBase base => rfl
    | _ => exact h

theorem captured_run_filter (d : Detector) (steps : List Step) :
    (d.run steps).captured = (d.run (steps.filter Step.onVariables)).captured := by
  refine run_filter captured Step.onVariables (fun d s hs => ?_) (fun d d' s h => ?_) rfl
  · cases s with
    | setVariable name value | forgetVariables => cases hs
    | setBase base | setTimeout millis => rfl
  · cases s with
    | setVariable name value =>
      change (name, value) :: d.captured.filter _ = (name, value) :: d'.captured.filter _
      rw [h]
    | forgetVariables => rfl
    | setBase base | setTimeout millis => exact h

theorem platform?_congr (h : d.captured = d'.captured) : d.platform? = d'.platform? := by
  unfold platform? has
  rw [h]

theorem has_iff : d.has name = true ↔ ∃ value, (name, value) ∈ d.captured := by
  simp [has]

theorem has_setVariable (d : Detector) (other value name : String) :
    (d.apply (.setVariable other value)).has name = true ↔ name = other ∨ d.has name = true := by
  simp only [has_iff, apply, List.mem_cons, Prod.mk.injEq, List.mem_filter]
  by_cases hname : name = other
  · simp [hname]
  · simp [hname]

theorem has_run (d : Detector) (steps : List Step) (name : String) :
    (d.run steps).has name = true ↔
      d.has name = true ∧ (∀ s ∈ steps, s.forgets = false) ∨
        ∃ value, Stands Step.forgets steps (.setVariable name value) := by
  induction steps generalizing d with
  | nil => simp [run]
  | cons s steps ih =>
    change ((d.apply s).run steps).has name = true ↔ _
    rw [ih]
    simp only [stands_cons, List.forall_mem_cons]
    cases s with
    | setVariable other value =>
      rw [has_setVariable]
      simp [Step.forgets, exists_or, or_and_right, or_assoc, or_left_comm]
    | forgetVariables => simp [Step.forgets, has, apply]
    | setBase base | setTimeout millis => simp [Step.forgets, has, apply]

/-- A variable of a platform is captured when the detector is made, if it can be read as text, and
stays until all are forgotten. Set after that, it is there again. -/
def Remembered (env : Environment) (steps : List Step) (name : String) : Prop :=
  (∃ value, env.text? name = some value) ∧ (∀ s ∈ steps, s.forgets = false) ∨
    ∃ value, Stands Step.forgets steps (.setVariable name value)

theorem has_ofEnvironment (h : name ∈ watched) :
    (ofEnvironment env).has name = true ↔ ∃ value, env.text? name = some value := by
  simp [has_iff, ofEnvironment, h]

theorem has_run_ofEnvironment (h : name ∈ watched) :
    ((ofEnvironment env).run steps).has name = true ↔ Remembered env steps name := by
  rw [has_run, has_ofEnvironment h, Remembered]

open Platform (precedence Shown Foremost)

theorem platform?_eq_find (d : Detector) :
    d.platform? = precedence.find? fun p => p.sign?.any d.has := by
  have hevidence : Platform.evidence =
      precedence.filterMap fun p => p.sign?.map fun name => (name, p) := rfl
  rw [platform?, hevidence, List.find?_filterMap]
  simp only [Option.any_map]
  change ((precedence.find? fun p => p.sign?.any d.has).bind _).map _ = _
  cases hfound : precedence.find? fun p => p.sign?.any d.has with
  | none => rfl
  | some p =>
    have hshown := List.find?_some (p := fun p : Platform => p.sign?.any d.has) hfound
    obtain ⟨name, hname, -⟩ := (Option.any_eq_true _ _).mp hshown
    rw [Option.bind_some, hname]
    rfl

theorem shown_iff {there : String → Prop}
    (h : ∀ name ∈ watched, (d.has name = true ↔ there name)) (p : Platform) :
    p.sign?.any d.has = true ↔ Shown there p := by
  have hwatched : ∀ name, p.sign? = some name → name ∈ watched := by
    cases p <;> simp [Platform.sign?, watched]
  rw [Option.any_eq_true, Shown]
  exact exists_congr fun name => and_congr_right fun hname => h name (hwatched name hname)

theorem platform?_eq_some_iff {there : String → Prop} {p : Platform}
    (h : ∀ name ∈ watched, (d.has name = true ↔ there name)) :
    d.platform? = some p ↔ Foremost there p := by
  rw [platform?_eq_find, List.find?_eq_some_iff_append, Foremost, shown_iff h]
  simp only [Bool.not_eq_true', ← Bool.not_eq_true, shown_iff h]

theorem platform?_eq_none_iff {there : String → Prop}
    (h : ∀ name ∈ watched, (d.has name = true ↔ there name)) :
    d.platform? = none ↔ ∀ p, ¬ Shown there p := by
  rw [platform?_eq_find, List.find?_eq_none]
  simp only [shown_iff h]
  constructor
  · exact fun hnone p hp => hnone p (Platform.mem_precedence_of_shown hp) hp
  · exact fun hnone p _ => hnone p

theorem platform?_of_remembered
    (h : ∀ name ∈ watched, (Remembered env' steps' name ↔ Remembered env steps name)) :
    ((ofEnvironment env').run steps').platform? = ((ofEnvironment env).run steps).platform? := by
  have hthere (name : String) (hname : name ∈ watched) :
      ((ofEnvironment env').run steps').has name = true ↔ Remembered env steps name :=
    (has_run_ofEnvironment hname).trans (h name hname)
  ext p
  exact (platform?_eq_some_iff hthere).trans
    (platform?_eq_some_iff fun name hname => has_run_ofEnvironment hname).symm

theorem stands_unvalued :
    Stands Step.forgets (steps.map Step.unvalued) (.setVariable name "") ↔
      ∃ value, Stands Step.forgets steps (.setVariable name value) := by
  induction steps with
  | nil => simp
  | cons s steps ih =>
    simp only [List.map_cons, stands_cons, ih, List.forall_mem_map, Step.forgets_unvalued,
      exists_or, exists_and_right]
    cases s <;> simp [Step.unvalued]

theorem remembered_of_unvalued (hcaptured : (env'.text? name).isSome = (env.text? name).isSome)
    (hsteps : steps'.map Step.unvalued = steps.map Step.unvalued) :
    Remembered env' steps' name ↔ Remembered env steps name := by
  have hkept (steps : List Step) : (∀ s ∈ steps, s.forgets = false) ↔
      ∀ s ∈ steps.map Step.unvalued, s.forgets = false := by
    simp
  rw [Remembered, Remembered, ← Option.isSome_iff_exists, ← Option.isSome_iff_exists,
    hcaptured, hkept steps', hkept steps, ← stands_unvalued, ← stands_unvalued, hsteps]

theorem remembered_of_perm {before sets sets' after : List Step} (hperm : sets.Perm sets')
    (hkept : ∀ s ∈ sets, s.forgets = false) :
    Remembered env (before ++ sets' ++ after) name ↔
      Remembered env (before ++ sets ++ after) name := by
  have hkept' : ∀ s ∈ sets', s.forgets = false := fun s hs => hkept s (hperm.mem_iff.mpr hs)
  simp only [Remembered, stands_append, List.forall_mem_append, stands_iff_mem hkept,
    stands_iff_mem hkept', hperm.mem_iff]

def slashed (base : String) (slashes : Nat) : String :=
  base ++ String.ofList (List.replicate slashes '/')

def Bare (base : String) : Prop :=
  base.toList.getLast? ≠ some '/'

theorem bare_trimBase (given : String) : Bare (trimBase given) := by
  rw [Bare, trimBase, String.toList_ofList, List.getLast?_reverse]
  intro hend
  have hkept := List.head?_dropWhile_not (· == '/') given.toList.reverse
  rw [hend] at hkept
  simp at hkept

theorem exists_slashed (given : String) : ∃ slashes, given = slashed (trimBase given) slashes := by
  generalize hwritten : given.toList.reverse = written
  have hslashes : written.takeWhile (· == '/') =
      List.replicate (written.takeWhile (· == '/')).length '/' :=
    List.eq_replicate_of_mem fun c hc => by simpa using List.all_eq_true.mp List.all_takeWhile c hc
  refine ⟨(written.takeWhile (· == '/')).length, String.toList_inj.mp ?_⟩
  rw [slashed, trimBase, String.toList_append, String.toList_ofList, String.toList_ofList, hwritten,
    ← List.reverse_replicate, ← hslashes, ← List.reverse_append, List.takeWhile_append_dropWhile,
    ← hwritten, List.reverse_reverse]

theorem trimBase_slashed (bare : Bare base) (slashes : Nat) :
    trimBase (slashed base slashes) = base := by
  have hbase : base.toList.reverse.dropWhile (· == '/') = base.toList.reverse := by
    rw [Bare, List.getLast?_eq_head?_reverse] at bare
    cases hwritten : base.toList.reverse with
    | nil => rfl
    | cons c r =>
      rw [hwritten] at bare
      exact List.dropWhile_cons_of_neg (by simpa using bare)
  rw [trimBase, slashed, String.toList_append, String.toList_ofList, List.reverse_append,
    List.reverse_replicate, List.dropWhile_append_of_pos (by simp), hbase, List.reverse_reverse,
    String.ofList_toList]

theorem base_run_of_kept (h : ∀ s ∈ steps, s.onBase = false) : (d.run steps).base = d.base := by
  rw [base_run_filter, List.filter_eq_nil_iff.mpr (by simpa using h)]
  rfl

theorem base_run_of_stands (h : Stands Step.onBase steps (.setBase base)) :
    (d.run steps).base = trimBase base := by
  obtain ⟨before, after, rfl, kept⟩ := h
  rw [run_append]
  exact base_run_of_kept (d := (d.run before).apply (.setBase base)) kept

/-- The base address is the last one given, without the slashes at its end. If none is given, the
environment may name a host, and otherwise it is the usual one. -/
inductive BasedOn (env : Environment) (steps : List Step) : String → Prop
  | given (base : String) (slashes : Nat) (bare : Bare base)
      (stands : Stands Step.onBase steps (.setBase (slashed base slashes))) :
      BasedOn env steps base
  | host (host : String) (kept : ∀ s ∈ steps, s.onBase = false)
      (named : env.text? "GCE_METADATA_HOST" = some host) (full : Text.trimmed host ≠ "") :
      BasedOn env steps ("http://" ++ Text.trimmed host ++ "/computeMetadata/v1")
  | usual (kept : ∀ s ∈ steps, s.onBase = false)
      (blank : ∀ host, env.text? "GCE_METADATA_HOST" = some host → Text.trimmed host = "") :
      BasedOn env steps "http://metadata.google.internal/computeMetadata/v1"

theorem baseOf_of_host {host : String} (named : env.text? "GCE_METADATA_HOST" = some host)
    (full : Text.trimmed host ≠ "") :
    baseOf env = "http://" ++ Text.trimmed host ++ "/computeMetadata/v1" := by
  rw [baseOf, hostVariable, named]
  exact if_neg ((not_congr Text.isBlankText_iff).mpr full)

theorem baseOf_of_blank
    (blank : ∀ host, env.text? "GCE_METADATA_HOST" = some host → Text.trimmed host = "") :
    baseOf env = "http://metadata.google.internal/computeMetadata/v1" := by
  rw [baseOf, hostVariable]
  cases hhost : env.text? "GCE_METADATA_HOST" with
  | none => rfl
  | some host => exact if_pos (Text.isBlankText_iff.mpr (blank host hhost))

theorem basedOn_baseOf (kept : ∀ s ∈ steps, s.onBase = false) : BasedOn env steps (baseOf env) := by
  by_cases hhost : ∃ host, env.text? "GCE_METADATA_HOST" = some host ∧ Text.trimmed host ≠ ""
  · obtain ⟨host, named, full⟩ := hhost
    rw [baseOf_of_host named full]
    exact .host host kept named full
  · have blank (host : String) (named : env.text? "GCE_METADATA_HOST" = some host) :
        Text.trimmed host = "" := by
      simpa using not_and.mp (not_exists.mp hhost host) named
    rw [baseOf_of_blank blank]
    exact .usual kept blank

theorem basedOn_run (env : Environment) (steps : List Step) :
    BasedOn env steps ((ofEnvironment env).run steps).base := by
  by_cases hgiven : ∃ s ∈ steps, s.onBase = true
  · obtain ⟨s, hs, stands⟩ := exists_stands hgiven
    cases s with
    | setBase given =>
      obtain ⟨slashes, heq⟩ := exists_slashed given
      rw [base_run_of_stands stands]
      rw [heq] at stands
      exact .given _ slashes (bare_trimBase given) stands
    | _ => cases hs
  · have kept : ∀ s ∈ steps, s.onBase = false := by simpa using hgiven
    rw [base_run_of_kept kept]
    exact basedOn_baseOf kept

theorem base_run_iff : ((ofEnvironment env).run steps).base = base ↔ BasedOn env steps base := by
  constructor
  · rintro rfl
    exact basedOn_run env steps
  · intro h
    cases h with
    | given base slashes bare stands =>
      rw [base_run_of_stands stands]
      exact trimBase_slashed bare slashes
    | host host kept named full => exact (base_run_of_kept kept).trans (baseOf_of_host named full)
    | usual kept blank => exact (base_run_of_kept kept).trans (baseOf_of_blank blank)

/-- What a detector is after changes to one that was made in an environment. -/
structure Configured (env : Environment) (steps : List Step) (d : Detector) : Prop where
  platform_iff : ∀ p, d.platform? = some p ↔ Foremost (Remembered env steps) p
  platform_none : d.platform? = none ↔ ∀ p, ¬ Shown (Remembered env steps) p
  /-- Other values, captured or set, show the same platform. -/
  values : ∀ env' steps',
    (∀ name ∈ watched, (env'.text? name).isSome = (env.text? name).isSome) →
    steps'.map Step.unvalued = steps.map Step.unvalued →
    ((ofEnvironment env').run steps').platform? = d.platform?
  /-- So do the steps in another order, unless variables are forgotten among them. -/
  order : ∀ before sets sets' after, steps = before ++ sets ++ after → sets.Perm sets' →
    (∀ s ∈ sets, s.forgets = false) →
    ((ofEnvironment env).run (before ++ sets' ++ after)).platform? = d.platform?
  base_iff : ∀ base, d.base = base ↔ BasedOn env steps base
  /-- Steps on variables and on the timeout never change the base address: without them it is the
  same. -/
  base_alone : d.base = ((ofEnvironment env).run (steps.filter Step.onBase)).base
  /-- Nor do steps on the base address and on the timeout change the platform. -/
  platform_alone :
    d.platform? = ((ofEnvironment env).run (steps.filter Step.onVariables)).platform?

/-- Whatever changes are made, the platform is the first one whose variable is there, and the base
address is the last one given. What changes the one leaves the other as it is. -/
theorem run_configured (env : Environment) (steps : List Step) :
    Configured env steps ((ofEnvironment env).run steps) where
  platform_iff _ := platform?_eq_some_iff fun _ hname => has_run_ofEnvironment hname
  platform_none := platform?_eq_none_iff fun _ hname => has_run_ofEnvironment hname
  values _ _ hcaptured hsteps :=
    platform?_of_remembered fun name hname => remembered_of_unvalued (hcaptured name hname) hsteps
  order before sets sets' after heq hperm hkept := by
    subst heq
    exact platform?_of_remembered fun name _ => remembered_of_perm hperm hkept
  base_iff _ := base_run_iff
  base_alone := base_run_filter _ steps
  platform_alone := platform?_congr (captured_run_filter _ steps)

/-- The service is forgotten, and the function is there without a value. -/
example :
    let d := (ofEnvironment ⟨[("K_SERVICE", Text.Utf8.encodeText "orders")]⟩).run
      [.setVariable "CLOUD_RUN_JOB" "nightly", .setBase "http://metadata//", .forgetVariables,
        .setVariable "KUBERNETES_SERVICE_HOST" "10.0.0.1", .setTimeout 5,
        .setVariable "FUNCTION_TARGET" ""]
    d.platform? = some .cloudFunctions ∧ d.base = "http://metadata" := by
  decide

end Detector

end TracedService
