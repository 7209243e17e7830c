import TracedService.Proofs.Startup.Activation

/-! The end of a guard. Whichever way an active guard goes, and whatever the span processors answer,
its provider is flushed before the process is shut down, and that happens once. -/

namespace TracedService

/-- How a guard goes: by itself, or in an explicit shutdown, whose flush the span processors
answer. -/
inductive Departure where
  | dropped
  | shutDown (answers : List (Except String Unit))

namespace Guard

/-- The guards that there are: one without a provider, and the active ones of providers. -/
inductive Issued : Guard → Prop
  | inactive : Issued .inactive
  | ofProvider (provider : Provider) : Issued (.ofProvider provider)

/-- What the one who ends the guard is told, and all that is done until the guard is gone. -/
def depart (g : Guard) : Departure → Except StartupFault Unit × List ClosingStep
  | .dropped => (.ok (), g.dropped)
  | .shutDown answers => g.shutdown answers

/-- The first of the answers that is a failure, with its text. -/
def FirstFailure (answers : List (Except String Unit)) (m : String) : Prop :=
  ∃ before after, answers = before ++ .error m :: after ∧ ∀ r ∈ before, r = .ok ()

/-- A flush comes before the shutdown, and there is no other shutdown. -/
def FlushesFirst (steps : List ClosingStep) : Prop :=
  ∃ before after, steps = before ++ .shutDown :: after ∧ .flush ∈ before ∧
    .shutDown ∉ before ∧ .shutDown ∉ after

variable {g : Guard} {answers : List (Except String Unit)} {m : String}

theorem firstFailure?_eq_some_iff : firstFailure? answers = some m ↔ FirstFailure answers m := by
  rw [firstFailure?, List.findSome?_eq_some_iff]
  constructor
  · rintro ⟨before, r, after, rfl, hr, hbefore⟩
    refine ⟨before, after, ?_, fun r hr => ?_⟩
    · cases r with
      | ok => cases hr
      | error m' =>
        cases hr
        rfl
    · specialize hbefore r hr
      cases r with
      | ok => rfl
      | error => cases hbefore
  · rintro ⟨before, after, rfl, hbefore⟩
    refine ⟨before, .error m, after, rfl, rfl, fun r hr => ?_⟩
    rw [hbefore r hr]

theorem exists_firstFailure_iff : (∃ m, FirstFailure answers m) ↔ ∃ m, .error m ∈ answers := by
  constructor
  · rintro ⟨m, before, after, rfl, -⟩
    exact ⟨m, by simp⟩
  · rintro ⟨m, hm⟩
    cases h : firstFailure? answers with
    | some m' => exact ⟨m', firstFailure?_eq_some_iff.mp h⟩
    | none => cases List.findSome?_eq_none_iff.mp h _ hm

/-- A failed flush is told, and the guard goes by itself. -/
theorem shutdown_of_failure (provider : Provider) (h : FirstFailure answers m) :
    (ofProvider provider).shutdown answers =
      (.error (.exporter (.undelivered m)), [.flush, .flush, .shutDown]) := by
  simp [shutdown, ofProvider, dropped, firstFailure?_eq_some_iff.mpr h]

theorem shutdown_of_success (provider : Provider) (h : ¬ ∃ m, FirstFailure answers m) :
    (ofProvider provider).shutdown answers = (.ok (), [.flush, .shutDown]) := by
  have hnone : firstFailure? answers = none := by
    cases hf : firstFailure? answers with
    | none => rfl
    | some m => exact absurd ⟨m, firstFailure?_eq_some_iff.mp hf⟩ h
  simp [shutdown, ofProvider, dropped, hnone]

theorem told_of_active (provider : Provider) (answers : List (Except String Unit)) :
    (∀ m, ((ofProvider provider).shutdown answers).1 = .error (.exporter (.undelivered m)) ↔
        FirstFailure answers m) ∧
      (((ofProvider provider).shutdown answers).1 = .ok () ↔ ¬ ∃ m, .error m ∈ answers) := by
  rw [← exists_firstFailure_iff]
  by_cases h : ∃ m, FirstFailure answers m
  · obtain ⟨m, hm⟩ := h
    rw [shutdown_of_failure provider hm]
    refine ⟨fun m' => ?_, by simpa using ⟨m, hm⟩⟩
    have hfirst := firstFailure?_eq_some_iff.mpr hm
    rw [← firstFailure?_eq_some_iff, hfirst]
    simp
  · rw [shutdown_of_success provider h]
    refine ⟨fun m' => ?_, by simpa using h⟩
    simpa using fun hm => h ⟨m', hm⟩

/-- On every way, an active guard flushes before its only shutdown. -/
theorem flushesFirst_depart (provider : Provider) (d : Departure) :
    FlushesFirst ((ofProvider provider).depart d).2 := by
  cases d with
  | dropped => exact ⟨[.flush], [], rfl, by simp⟩
  | shutDown answers =>
    by_cases h : ∃ m, FirstFailure answers m
    · obtain ⟨m, hm⟩ := h
      rw [depart, shutdown_of_failure provider hm]
      exact ⟨[.flush, .flush], [], rfl, by simp⟩
    · rw [depart, shutdown_of_success provider h]
      exact ⟨[.flush], [], rfl, by simp⟩

end Guard

namespace ProcessState

variable {p : ProcessState} {b : Bootstrap} {patience : Option Nat} {g : Guard}

theorem install_issued (h : (p.install b patience).1 = some (.ok g)) : g.Issued := by
  cases hd : b.delivered? p.surroundings patience with
  | none =>
    rw [(install_undelivered hd).1 g h]
    exact .inactive
  | some provider =>
    cases hs : p.slot with
    | none =>
      rw [(install_of_empty hd hs).1] at h
      cases h
      exact .ofProvider provider
    | some first =>
      rw [(install_of_filled hd (by simp [hs])).1] at h
      cases h

/-- What the span processors of a process answer to the flush of an explicit shutdown. -/
def answers (p : ProcessState) (g : Guard) : List (Except String Unit) :=
  if g.active then p.flush.1 else []

/-- An explicit shutdown carries out all of the guard's steps; the flush that is answered is the
first of them. -/
theorem shutdown_eq (p : ProcessState) (hg : g.Issued) :
    p.shutdown g = ((g.depart (.shutDown (p.answers g))).1,
      (g.depart (.shutDown (p.answers g))).2.foldl closingStep p) := by
  cases hg with
  | inactive => rfl
  | ofProvider provider =>
    have hflush : ∃ outcome steps,
        (Guard.ofProvider provider).shutdown p.flush.1 = (outcome, .flush :: steps) := by
      by_cases h : ∃ m, Guard.FirstFailure p.flush.1 m
      · obtain ⟨m, hm⟩ := h
        exact ⟨_, _, Guard.shutdown_of_failure provider hm⟩
      · exact ⟨_, _, Guard.shutdown_of_success provider h⟩
    obtain ⟨outcome, steps, hsteps⟩ := hflush
    have hanswers : p.answers (.ofProvider provider) = p.flush.1 := rfl
    have hactive : (Guard.ofProvider provider).active = true := rfl
    rw [hanswers, Guard.depart, shutdown, hactive]
    simp only [if_true, hsteps]
    rfl

/-- Nothing waits for an exporter that still runs. -/
def Emptied (p : ProcessState) : Prop :=
  ∀ line, p.pipeline = some line → line.closed = true ∨ line.waiting = []

theorem emptied_flush (p : ProcessState) : p.flush.2.Emptied := by
  intro line h
  unfold flush at h
  split at h
  · rename_i hp
    rw [hp] at h
    cases h
  · rename_i l _
    obtain rfl : (l.flush p.network).2.1 = line := by simpa using h
    unfold Pipeline.flush
    split
    · rename_i hc
      exact .inl hc
    · split
      · rename_i hw
        exact .inr (List.isEmpty_iff.mp hw)
      · exact .inr rfl

theorem Emptied.closingSteps (h : p.Emptied) (steps : List ClosingStep) :
    (steps.foldl closingStep p).Emptied := by
  induction steps generalizing p with
  | nil => exact h
  | cons c steps ih =>
    cases c with
    | flush => exact ih (emptied_flush p)
    | shutDown => exact @ih { p with global := none } h

theorem emptied_of_mem {steps : List ClosingStep} (h : .flush ∈ steps) (p : ProcessState) :
    (steps.foldl closingStep p).Emptied := by
  obtain ⟨before, after, rfl⟩ := List.append_of_mem h
  rw [List.foldl_append]
  exact (emptied_flush _).closingSteps after

theorem global_of_mem {steps : List ClosingStep} (h : .shutDown ∈ steps) (p : ProcessState) :
    (steps.foldl closingStep p).global = none := by
  obtain ⟨before, after, rfl⟩ := List.append_of_mem h
  rw [List.foldl_append]
  rcases (closes_closingSteps { before.foldl closingStep p with global := none } after).global with
    h | h
  · exact h
  · exact h

/-- No provider is in use any more, and nothing waits. -/
structure Closed (p : ProcessState) : Prop where
  global : p.global = none
  emptied : p.Emptied

theorem closed_of_flushesFirst (p : ProcessState) {steps : List ClosingStep}
    (h : Guard.FlushesFirst steps) : (steps.foldl closingStep p).Closed := by
  obtain ⟨before, after, rfl, hflush, -, -⟩ := h
  exact ⟨global_of_mem (by simp) p, emptied_of_mem (List.mem_append_left _ hflush) p⟩

end ProcessState

/-- An active guard flushes its provider before the one shutdown of the process, an inactive guard
does neither, and an explicit shutdown tells the first failure of the flush, if there is one. The
process takes these steps and no others. -/
theorem guard_flushes_before_shutdown (g : Guard) (hg : g.Issued) (p : ProcessState) :
    (g.active = true → ∀ d, Guard.FlushesFirst (g.depart d).2) ∧
      (g.active = false → ∀ d, g.depart d = (.ok (), [])) ∧
      (∀ answers m, (g.depart (.shutDown answers)).1 = .error (.exporter (.undelivered m)) ↔
        g.active = true ∧ Guard.FirstFailure answers m) ∧
      (∀ answers, (g.depart (.shutDown answers)).1 = .ok () ↔
        ¬ (g.active = true ∧ ∃ m, .error m ∈ answers)) ∧
      p.drop g = (g.depart .dropped).2.foldl ProcessState.closingStep p ∧
      p.shutdown g = ((g.depart (.shutDown (p.answers g))).1,
        (g.depart (.shutDown (p.answers g))).2.foldl ProcessState.closingStep p) ∧
      (g.active = true → (p.drop g).Closed ∧ (p.shutdown g).2.Closed) := by
  have hshutdown := p.shutdown_eq hg
  have hclosed (h : g.active = true → ∀ d, Guard.FlushesFirst (g.depart d).2) :
      g.active = true → (p.drop g).Closed ∧ (p.shutdown g).2.Closed := by
    intro ha
    rw [hshutdown]
    exact ⟨ProcessState.closed_of_flushesFirst p (h ha .dropped),
      ProcessState.closed_of_flushesFirst p (h ha (.shutDown (p.answers g)))⟩
  cases hg with
  | inactive =>
    refine ⟨nofun, fun _ d => ?_, ?_, ?_, rfl, hshutdown, nofun⟩
    · cases d <;> rfl
    · simp [Guard.inactive, Guard.depart, Guard.shutdown]
    · simp [Guard.inactive, Guard.depart, Guard.shutdown]
  | ofProvider provider =>
    have hflushed := Guard.flushesFirst_depart provider
    refine ⟨fun _ => hflushed, nofun, fun answers m => ?_, fun answers => ?_, rfl, hshutdown,
      hclosed fun _ => hflushed⟩
    · exact ((Guard.told_of_active provider answers).1 m).trans (by simp [Guard.ofProvider])
    · exact (Guard.told_of_active provider answers).2.trans (by simp [Guard.ofProvider])

/-- Of two failures the first is told, and the guard that stays active is ended all the same. -/
theorem guard_flushes_before_failed_shutdown :
    let g := Guard.ofProvider ⟨.alwaysOn, {}, .debugOutput⟩
    let answers : List (Except String Unit) := [.ok (), .error "first", .error "second"]
    g.Issued ∧ g.active = true ∧
      (g.depart (.shutDown answers)).1 = .error (.exporter (.undelivered "first")) ∧
      Guard.FlushesFirst (g.depart (.shutDown answers)).2 := by
  intro g answers
  have hg : g.Issued := .ofProvider _
  obtain ⟨hflushed, -, htold, -⟩ :=
    guard_flushes_before_shutdown g hg { ids := ⟨fun _ => 1, fun _ => 1⟩ }
  refine ⟨hg, rfl, (htold answers "first").mpr ⟨rfl, [.ok ()], [.error "second"], rfl, ?_⟩,
    hflushed rfl (.shutDown answers)⟩
  simp

end TracedService
