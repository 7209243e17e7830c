import TracedService.Startup.ProcessState

/-! The tracing state that a process has once: the slot, the provider in use and the propagator.
What a single operation does to it, and what a build can and cannot come to. -/

namespace TracedService

/-- What a process has once for all its parts. -/
structure Activation where
  slot : Option Provider
  global : Option Provider
  propagating : Bool

/-- The state that one provider fills at once. -/
def Activation.ofProvider (provider : Provider) : Activation :=
  ⟨some provider, some provider, true⟩

/-- Slot and propagator stay; the provider in use stays or goes. -/
structure Activation.Closes (before after : Activation) : Prop where
  slot : after.slot = before.slot
  propagating : after.propagating = before.propagating
  global : after.global = before.global ∨ after.global = none

theorem Activation.Closes.refl (a : Activation) : Closes a a :=
  ⟨rfl, rfl, .inl rfl⟩

theorem Activation.Closes.trans {a b c : Activation} (h : Closes a b) (k : Closes b c) :
    Closes a c where
  slot := k.slot.trans h.slot
  propagating := k.propagating.trans h.propagating
  global := by
    rcases k.global with hk | hk
    · exact h.global.imp hk.trans hk.trans
    · exact .inr hk

def Bootstrap.delivered? (b : Bootstrap) (s : Surroundings) (patienceMillis : Option Nat) :
    Option Provider :=
  match b.fate s patienceMillis, (b.build s).result with
  | .completed, .ok provider => provider
  | _, _ => none

namespace ProcessState

def activation (p : ProcessState) : Activation :=
  ⟨p.slot, p.global, p.propagating⟩

@[simp] theorem activation_log (p : ProcessState) (e : Log.Event) (inside : Option Log.SpanKind) :
    (p.log e inside).activation = p.activation := by
  unfold log
  split <;> rfl

@[simp] theorem activation_say (p : ProcessState) (ns : List Notice) :
    (p.say ns).activation = p.activation := by
  induction ns generalizing p with
  | nil => rfl
  | cons n ns ih => exact (ih (p.log n.event)).trans (activation_log p _ _)

@[simp] theorem activation_collect (p : ProcessState) : p.collect.activation = p.activation := by
  unfold collect
  cases p.pipeline <;> rfl

@[simp] theorem activation_finish (p : ProcessState) (a : ActiveSpan) :
    (p.finish a).activation = p.activation :=
  activation_collect _

@[simp] theorem activation_start (p : ProcessState) (request : SpanRequest) (current : Context) :
    (p.start request current).2.activation = p.activation := by
  unfold start
  split <;> rfl

@[simp] theorem activation_flush (p : ProcessState) : p.flush.2.activation = p.activation := by
  unfold flush
  cases p.pipeline <;> rfl

@[simp] theorem activation_settle (p : ProcessState) : p.settle.activation = p.activation := by
  unfold settle
  split
  · rfl
  · exact activation_flush p

@[simp] theorem activation_selfTest (p : ProcessState) (provider : Provider) :
    (p.selfTest provider).activation = p.activation := by
  unfold selfTest
  exact (activation_say _ _).trans (activation_collect _)

@[simp] theorem activation_attach (p : ProcessState) (g : Guard) :
    (p.attach g).activation = p.activation := by
  unfold attach
  split <;> rfl

@[simp] theorem activation_serve (p : ProcessState) (router : Server.Router)
    (request : Http.Request) (current : Context) :
    (p.serve router request current).2.activation = p.activation := by
  unfold serve
  exact (activation_settle _).trans (activation_collect _)

@[simp] theorem activation_logSpan (p : ProcessState) (target name message : String) :
    (p.logSpan target name message).activation = p.activation := by
  unfold logSpan
  dsimp only
  split
  · split
    · split
      · exact (activation_log _ _ _).trans (activation_finish _ _)
      · exact activation_log _ _ _
    · exact activation_log _ _ _
  · exact activation_log _ _ _

theorem activation_startLogging {p q : ProcessState} {l : LoggingSettings}
    (h : p.startLogging l = .ok q) : q.activation = p.activation := by
  unfold startLogging at h
  split at h
  · cases h
  · cases h
    rfl

theorem closes_closingStep (p : ProcessState) (c : ClosingStep) :
    p.activation.Closes (p.closingStep c).activation := by
  cases c with
  | flush => exact activation_flush p ▸ .refl _
  | shutDown => exact ⟨rfl, rfl, .inr rfl⟩

theorem closes_closingSteps (p : ProcessState) (cs : List ClosingStep) :
    p.activation.Closes (cs.foldl closingStep p).activation := by
  induction cs generalizing p with
  | nil => exact .refl _
  | cons c cs ih => exact (closes_closingStep p c).trans (ih _)

theorem closes_drop (p : ProcessState) (g : Guard) : p.activation.Closes (p.drop g).activation :=
  closes_closingSteps p _

theorem closes_shutdown (p : ProcessState) (g : Guard) :
    p.activation.Closes (p.shutdown g).2.activation := by
  have hflushed : p.activation.Closes (if g.active then p.flush else ([], p)).2.activation := by
    split
    · exact activation_flush p ▸ .refl _
    · exact .refl _
  unfold shutdown
  dsimp only
  split
  · exact hflushed.trans (closes_closingSteps _ _)
  · exact closes_closingSteps p _

end ProcessState

private theorem error_of_map {ε α β : Type} {x : Except ε α} {g : α → β} {e : ε}
    (h : x.map g = .error e) : x = .error e := by
  cases x with
  | error e' =>
    cases h
    rfl
  | ok a => cases h

private theorem of_mapError {ε ε' α : Type} {x : Except ε α} {g : ε → ε'} {e : ε'}
    (h : x.mapError g = .error e) : ∃ e₀, g e₀ = e := by
  cases x with
  | error e₀ =>
    cases h
    exact ⟨e₀, rfl⟩
  | ok a => cases h

variable {f : StartupFault}

theorem Exporter.address_error {env : Environment} {protocol : ExportProtocol} {endpoint : String}
    (h : Exporter.address env protocol endpoint = .error f) : f ≠ .alreadyActive := by
  unfold Exporter.address at h
  split at h
  · obtain ⟨e, rfl⟩ := of_mapError h
    simp
  · cases h
    simp

theorem Exporter.collector_error {env : Environment} {protocol : ExportProtocol}
    {endpoint : String} {timeout : Nat} {fields : List (String × String)}
    (h : Exporter.collector env protocol endpoint timeout fields = .error f) :
    f ≠ .alreadyActive :=
  Exporter.address_error (error_of_map h)

theorem Exporter.authorized_error {env : Environment} {endpoint : String} {timeout : Nat}
    {fields : List (String × String)} {tokens : TokenSource}
    (h : Exporter.authorized env endpoint timeout fields tokens = .error f) :
    f ≠ .alreadyActive :=
  Exporter.address_error (error_of_map h)

theorem Exporter.protocol_error {name : String} (h : Exporter.protocol name = .error f) :
    f ≠ .alreadyActive := by
  unfold Exporter.protocol at h
  split at h
  · cases h
  · cases h
    simp

namespace Bootstrap
variable {b : Bootstrap} {s : Surroundings}

theorem tokenSource_error (h : b.tokenSource s = .error f) : f ≠ .alreadyActive := by
  unfold tokenSource at h
  split at h
  · cases h
  · obtain ⟨e, rfl⟩ := of_mapError h
    simp

theorem buildCloud_error {policy : SamplingPolicy} {project : String}
    (h : (b.buildCloud s policy project).result = .error f) : f ≠ .alreadyActive := by
  unfold buildCloud at h
  dsimp only at h
  split at h
  · rename_i ht
    cases h
    exact tokenSource_error ht
  · split at h
    · rename_i he
      cases h
      exact Exporter.authorized_error he
    · split at h
      · cases h
        simp
      · cases h

theorem buildCollector_error {policy : SamplingPolicy} {endpoint : String}
    (h : (b.buildCollector s policy endpoint).result = .error f) : f ≠ .alreadyActive := by
  unfold buildCollector at h
  dsimp only at h
  split at h
  · rename_i he
    cases h
    cases hp : Exporter.protocol b.settings.collectorProtocol with
    | error e =>
      rw [hp] at he
      cases he
      exact Exporter.protocol_error hp
    | ok protocol =>
      rw [hp] at he
      exact Exporter.collector_error he
  · cases h

theorem build_error (h : (b.build s).result = .error f) : f ≠ .alreadyActive := by
  unfold build at h
  split at h
  · cases h
    simp
  · change (b.buildBackend s _ b.backend).result = .error f at h
    cases hb : b.backend with
    | cloud project =>
      rw [hb] at h
      exact buildCloud_error h
    | debugOutput =>
      rw [hb] at h
      cases h
    | collector endpoint =>
      rw [hb] at h
      exact buildCollector_error h
    | disabled =>
      rw [hb] at h
      cases h

end Bootstrap

namespace ProcessState

theorem activate_of_filled {p : ProcessState} (provider : Provider) (h : p.slot.isSome = true) :
    p.activate provider = .error .alreadyActive := by
  simp [activate, h]

theorem activate_of_empty {p : ProcessState} (provider : Provider) (h : p.slot = none) :
    ∃ q, p.activate provider = .ok q ∧ q.activation = .ofProvider provider := by
  simp only [activate, h, Option.isSome_none, Bool.false_eq_true, if_false]
  exact ⟨_, rfl, activation_say _ _⟩

/-- The process once a build has told what it did. -/
def told (p : ProcessState) (built : Build) : ProcessState :=
  { p with asked := p.asked ++ built.asked }.say built.notices

@[simp] theorem activation_told (p : ProcessState) (built : Build) :
    (p.told built).activation = p.activation :=
  activation_say _ _

@[simp] theorem slot_told (p : ProcessState) (built : Build) : (p.told built).slot = p.slot :=
  congrArg Activation.slot (activation_told p built)

variable {p : ProcessState} {b : Bootstrap} {m : Option Nat} {provider : Provider}

private theorem delivered_cases (h : b.delivered? p.surroundings m = some provider) :
    b.fate p.surroundings m = .completed ∧
      (b.build p.surroundings).result = .ok (some provider) := by
  unfold Bootstrap.delivered? at h
  split at h
  · rename_i hf hr
    exact ⟨hf, by rw [hr, h]⟩
  · cases h

/-- The first provider to be delivered fills everything, and its guard is active. -/
theorem install_of_empty (hd : b.delivered? p.surroundings m = some provider)
    (hs : p.slot = none) : (p.install b m).1 = some (.ok (.ofProvider provider)) ∧
      (p.install b m).2.activation = .ofProvider provider := by
  obtain ⟨hf, hr⟩ := delivered_cases hd
  obtain ⟨q, hq, ha⟩ := activate_of_empty (p := p.told (b.build p.surroundings)) provider
    ((slot_told p _).trans hs)
  unfold told at hq
  simp only [install, hf, complete, hr, hq]
  exact ⟨trivial, (activation_selfTest q provider).trans ha⟩

/-- A provider that comes later is refused, and nothing changes. -/
theorem install_of_filled (hd : b.delivered? p.surroundings m = some provider)
    (hs : p.slot.isSome = true) : (p.install b m).1 = some (.error .alreadyActive) ∧
      (p.install b m).2.activation = p.activation := by
  obtain ⟨hf, hr⟩ := delivered_cases hd
  have hq := activate_of_filled (p := p.told (b.build p.surroundings)) provider
    ((congrArg Option.isSome (slot_told p _)).trans hs)
  unfold told at hq
  simp only [install, hf, complete, hr, hq]
  exact ⟨trivial, activation_told p _⟩

/-- Without a provider there is no active guard and no refusal, and nothing changes. -/
theorem install_undelivered (hd : b.delivered? p.surroundings m = none) :
    (∀ g, (p.install b m).1 = some (.ok g) → g = .inactive) ∧
      (p.install b m).1 ≠ some (.error .alreadyActive) ∧
      (p.install b m).2.activation = p.activation := by
  unfold install
  cases hf : b.fate p.surroundings m with
  | cancelled => exact ⟨by simp, by simp, activation_say _ _⟩
  | timedOut => exact ⟨by simp, by simp, activation_say _ _⟩
  | completed =>
    cases hr : (b.build p.surroundings).result with
    | error f =>
      simp only [complete, hr]
      exact ⟨by simp, by simpa using Bootstrap.build_error hr, activation_told p _⟩
    | ok built =>
      simp only [Bootstrap.delivered?, hf, hr] at hd
      subst hd
      simp only [complete, hr]
      refine ⟨?_, by simp, activation_told p _⟩
      intro g hg
      cases hg
      rfl

end ProcessState

end TracedService
