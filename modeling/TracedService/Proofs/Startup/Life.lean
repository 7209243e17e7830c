import TracedService.Proofs.Startup.Activation

/-! The life of a process: any operations in any order, with the guards that its installations hand
out. Over a whole life one installation at most activates a provider, and what it set stays set. -/

namespace TracedService

/-- What can happen in a process. Guards are named by their place in the order of arrival. -/
inductive Operation where
  /-- The world around the process changes. -/
  | surround (s : Surroundings) (network : Network)
  | install (b : Bootstrap) (patienceMillis : Option Nat)
  | drop (guard : Nat)
  | shutdown (guard : Nat)
  | startLogging (l : LoggingSettings)
  | attach (guard : Nat)
  /-- A span of the provider in use, from start to end. -/
  | span (request : SpanRequest) (current : Context)
  | serve (router : Server.Router) (request : Http.Request) (current : Context)
  | logSpan (target name message : String)
  | wait

/-- A process and its guards; one that is gone leaves its place empty. -/
structure Life where
  process : ProcessState
  guards : List (Option Guard) := []

namespace Life

/-- An operation between two states. An installation has a result unless it is given up. -/
structure Step where
  operation : Operation
  before : ProcessState
  result : Option (Except StartupFault Guard) := none
  after : ProcessState

/-- An active guard came out of the step. -/
def Step.activates (s : Step) : Bool :=
  match s.result with
  | some (.ok g) => g.active
  | _ => false

def fresh (ids : IdSource) (s : Surroundings) (network : Network) : Life where
  process := { surroundings := s, network := network, ids := ids }

def held? (l : Life) (guard : Nat) : Option Guard :=
  l.guards[guard]?.join

/-- The guard is given away by the operation that ends it. -/
def without (l : Life) (guard : Nat) : List (Option Guard) :=
  l.guards.set guard none

def gained : Option (Except StartupFault Guard) → List (Option Guard)
  | some (.ok g) => [some g]
  | _ => []

/-- An operation, with the result of an installation. An operation on a guard that is not there is
none. -/
def act (l : Life) : Operation → Option (Except StartupFault Guard) × Life
  | .surround s network =>
    (none, { l with process := { l.process with surroundings := s, network := network } })
  | .install b m =>
    let (result, p) := l.process.install b m
    (result, { process := p, guards := l.guards ++ gained result })
  | .drop n =>
    match l.held? n with
    | some g => (none, { process := l.process.drop g, guards := l.without n })
    | none => (none, l)
  | .shutdown n =>
    match l.held? n with
    | some g => (none, { process := (l.process.shutdown g).2, guards := l.without n })
    | none => (none, l)
  | .startLogging settings =>
    match l.process.startLogging settings with
    | .ok p => (none, { l with process := p })
    | .error _ => (none, l)
  | .attach n =>
    match l.held? n with
    | some g => (none, { l with process := l.process.attach g })
    | none => (none, l)
  | .span request current =>
    let (a, p) := l.process.start request current
    (none, { l with process := p.finish a })
  | .serve router request current =>
    (none, { l with process := (l.process.serve router request current).2 })
  | .logSpan target name message =>
    (none, { l with process := l.process.logSpan target name message })
  | .wait => (none, { l with process := l.process.settle })

def step (l : Life) (d : Operation) : Step where
  operation := d
  before := l.process
  result := (l.act d).1
  after := (l.act d).2.process

/-- The steps of a life, in order. -/
def history : Life → List Operation → List Step
  | _, [] => []
  | l, d :: ds => l.step d :: (l.act d).2.history ds

/-- What an installation comes to, told by what its build delivers and by what the slot holds. -/
inductive Installed (s : Step) (b : Bootstrap) (m : Option Nat) : Prop where
  | activated (provider : Provider)
      (delivered : b.delivered? s.before.surroundings m = some provider)
      (empty : s.before.slot = none)
      (result : s.result = some (.ok (.ofProvider provider)))
      (after : s.after.activation = .ofProvider provider)
  | refused (provider : Provider)
      (delivered : b.delivered? s.before.surroundings m = some provider)
      (filled : s.before.slot.isSome = true)
      (result : s.result = some (.error .alreadyActive))
      (after : s.after.activation = s.before.activation)
  | undelivered (delivered : b.delivered? s.before.surroundings m = none)
      (idle : s.activates = false)
      (result : s.result ≠ some (.error .alreadyActive))
      (after : s.after.activation = s.before.activation)

theorem installed_step (l : Life) (b : Bootstrap) (m : Option Nat) :
    Installed (l.step (.install b m)) b m := by
  cases hd : b.delivered? l.process.surroundings m with
  | none =>
    obtain ⟨hok, hne, ha⟩ := ProcessState.install_undelivered hd
    refine .undelivered hd ?_ hne ha
    unfold Step.activates
    split
    · rename_i g hg
      rw [hok g hg]
      rfl
    · rfl
  | some provider =>
    cases hs : l.process.slot with
    | none =>
      obtain ⟨hr, ha⟩ := ProcessState.install_of_empty hd hs
      exact .activated provider hd hs hr ha
    | some held =>
      obtain ⟨hr, ha⟩ := ProcessState.install_of_filled hd (by rw [hs]; rfl)
      exact .refused provider hd (by change l.process.slot.isSome = true; rw [hs]; rfl) hr ha

/-- Every other operation leaves slot and propagator alone and puts no provider to use. -/
theorem closes_act (l : Life) (d : Operation) (h : ∀ b m, d ≠ .install b m) :
    (l.act d).1 = none ∧
      l.process.activation.Closes (l.act d).2.process.activation := by
  have still {a : Activation} (h : a = l.process.activation) :
      l.process.activation.Closes a := h ▸ .refl _
  cases d with
  | surround s network => exact ⟨rfl, still rfl⟩
  | install b m => exact absurd rfl (h b m)
  | drop n =>
    simp only [act]
    split
    · rename_i g _
      exact ⟨rfl, ProcessState.closes_drop _ g⟩
    · exact ⟨rfl, still rfl⟩
  | shutdown n =>
    simp only [act]
    split
    · rename_i g _
      exact ⟨rfl, ProcessState.closes_shutdown _ g⟩
    · exact ⟨rfl, still rfl⟩
  | startLogging settings =>
    simp only [act]
    split
    · rename_i p hp
      exact ⟨rfl, still (ProcessState.activation_startLogging hp)⟩
    · exact ⟨rfl, still rfl⟩
  | attach n =>
    simp only [act]
    split
    · rename_i g _
      exact ⟨rfl, still (ProcessState.activation_attach _ g)⟩
    · exact ⟨rfl, still rfl⟩
  | span request current =>
    exact ⟨rfl, still ((ProcessState.activation_finish _ _).trans
      (ProcessState.activation_start _ _ _))⟩
  | serve router request current => exact ⟨rfl, still (ProcessState.activation_serve _ _ _ _)⟩
  | logSpan target name message => exact ⟨rfl, still (ProcessState.activation_logSpan _ _ _ _)⟩
  | wait => exact ⟨rfl, still (ProcessState.activation_settle _)⟩

theorem step_activates {l : Life} {d : Operation} (h : (l.step d).activates = true) :
    ∃ b m provider, d = .install b m ∧ l.process.slot = none ∧
      (l.step d).result = some (.ok (.ofProvider provider)) ∧
      (l.step d).after.activation = .ofProvider provider := by
  by_cases hd : ∃ b m, d = .install b m
  · obtain ⟨b, m, rfl⟩ := hd
    cases installed_step l b m with
    | activated provider _ empty result after => exact ⟨b, m, provider, rfl, empty, result, after⟩
    | refused _ _ _ result _ => simp [Step.activates, result] at h
    | undelivered _ idle _ _ =>
      rw [idle] at h
      cases h
  · have hnone : (l.step d).result = none :=
      (closes_act l d fun b m he => hd ⟨b, m, he⟩).1
    simp [Step.activates, hnone] at h

theorem step_refuses {l : Life} {b : Bootstrap} {m : Option Nat}
    (h : (l.step (.install b m)).activates = false) :
    (l.step (.install b m)).after.activation = l.process.activation := by
  cases installed_step l b m with
  | activated provider _ _ result _ => simp [Step.activates, result, Guard.ofProvider] at h
  | refused _ _ _ _ after => exact after
  | undelivered _ _ _ after => exact after

theorem step_closes {l : Life} {d : Operation} (h : (l.step d).activates = false) :
    l.process.activation.Closes (l.step d).after.activation := by
  by_cases hd : ∃ b m, d = .install b m
  · obtain ⟨b, m, rfl⟩ := hd
    rw [step_refuses h]
    exact .refl _
  · exact (closes_act l d fun b m he => hd ⟨b, m, he⟩).2

theorem slot_step (l : Life) (d : Operation) :
    (l.step d).after.slot.isSome = (l.process.slot.isSome || (l.step d).activates) := by
  cases h : (l.step d).activates with
  | true =>
    obtain ⟨_, _, provider, _, _, _, ha⟩ := step_activates h
    have hs : (l.step d).after.slot = some provider := congrArg Activation.slot ha
    simp [hs]
  | false =>
    have hs : (l.step d).after.slot = l.process.slot := (step_closes h).slot
    simp [hs]

/-- Once the slot is filled it stays as it is, and nothing is activated any more. -/
theorem history_of_filled {l : Life} {provider : Provider} (h : l.process.slot = some provider)
    (ds : List Operation) : ∀ s ∈ l.history ds, s.before.slot = some provider ∧
      s.after.slot = some provider ∧ s.activates = false := by
  induction ds generalizing l with
  | nil => simp [history]
  | cons d ds ih =>
    have hidle : (l.step d).activates = false := by
      refine Bool.eq_false_iff.mpr fun hactive => ?_
      obtain ⟨_, _, _, _, empty, _, _⟩ := step_activates hactive
      rw [h] at empty
      cases empty
    have hafter : (l.step d).after.slot = some provider := (step_closes hidle).slot.trans h
    intro s hs
    rcases List.mem_cons.mp hs with rfl | hs
    · exact ⟨h, hafter, hidle⟩
    · exact ih hafter s hs

theorem countP_activates_le_one (l : Life) (ds : List Operation) :
    (l.history ds).countP Step.activates ≤ 1 := by
  induction ds generalizing l with
  | nil => simp [history]
  | cons d ds ih =>
    rw [history, List.countP_cons]
    cases h : (l.step d).activates with
    | true =>
      obtain ⟨_, _, provider, _, _, _, ha⟩ := step_activates h
      have hlater := history_of_filled (l := (l.act d).2) (congrArg Activation.slot ha) ds
      have hzero : ((l.act d).2.history ds).countP Step.activates = 0 :=
        List.countP_eq_zero.mpr fun s hs => by simp [(hlater s hs).2.2]
      simp [hzero]
    | false => simpa using ih (l.act d).2

/-- A filled slot goes back to an active guard that was given before. -/
theorem filled_iff_activated (l : Life) (ds : List Operation) (earlier : List Step) (s : Step)
    (later : List Step) (h : l.history ds = earlier ++ s :: later) :
    s.before.slot.isSome = (l.process.slot.isSome || earlier.any Step.activates) := by
  induction earlier generalizing l ds with
  | nil =>
    cases ds with
    | nil => cases h
    | cons d ds =>
      cases h
      simp [step]
  | cons e es ih =>
    cases ds with
    | nil => cases h
    | cons d ds =>
      obtain ⟨rfl, ht⟩ := List.cons.inj h
      rw [ih _ _ ht, List.any_cons, ← Bool.or_assoc, ← slot_step]
      rfl

theorem pairwise_slot (l : Life) (ds : List Operation) :
    (l.history ds).Pairwise fun s t =>
      ∀ provider, s.after.slot = some provider →
        t.before.slot = some provider ∧ t.after.slot = some provider := by
  induction ds generalizing l with
  | nil => exact .nil
  | cons d ds ih =>
    refine .cons ?_ (ih _)
    intro t ht provider hs
    obtain ⟨hb, ha, _⟩ := history_of_filled (l := (l.act d).2) hs ds t ht
    exact ⟨hb, ha⟩

theorem exists_of_mem_history {l : Life} {ds : List Operation} {s : Step} (h : s ∈ l.history ds) :
    ∃ (k : Life) (d : Operation), s = k.step d := by
  induction ds generalizing l with
  | nil => simp [history] at h
  | cons d ds ih =>
    rcases List.mem_cons.mp h with rfl | h
    · exact ⟨l, d, rfl⟩
    · exact ih h

end Life

/-- Single, all-or-nothing activation, told of the steps of a life in their order. -/
structure SingleActivation (steps : List Life.Step) : Prop where
  /-- One step at most gives an active guard. -/
  once : steps.countP Life.Step.activates ≤ 1
  /-- That step is an installation, which fills the empty slot, sets the provider in use and
  installs the propagator together. -/
  fills : ∀ s ∈ steps, s.activates = true → ∃ b m provider, s.operation = .install b m ∧
    s.before.slot = none ∧ s.result = some (.ok (.ofProvider provider)) ∧
    s.after.activation = .ofProvider provider
  /-- Any other step leaves slot and propagator alone and puts no provider to use. -/
  keeps : ∀ s ∈ steps, s.activates = false →
    s.before.activation.Closes s.after.activation
  /-- An installation that fails, gives an inactive guard or is given up changes nothing. -/
  refuses : ∀ s ∈ steps, ∀ b m, s.operation = .install b m → s.activates = false →
    s.after.activation = s.before.activation
  /-- What is in the slot after a step is there before and after every later one. -/
  lasts : steps.Pairwise fun s t => ∀ provider, s.after.slot = some provider →
    t.before.slot = some provider ∧ t.after.slot = some provider
  /-- The slot is filled exactly from the first active guard on, whatever becomes of that guard. -/
  filled : ∀ earlier s later, steps = earlier ++ s :: later →
    s.before.slot.isSome = earlier.any Life.Step.activates
  /-- A provider that is delivered is activated exactly if the slot is empty. -/
  accepted : ∀ s ∈ steps, ∀ b m, s.operation = .install b m →
    (s.activates = true ↔
      (b.delivered? s.before.surroundings m).isSome = true ∧ s.before.slot.isSome = false)
  /-- It is refused as the second one exactly if the slot is filled. -/
  alreadyActive : ∀ s ∈ steps, ∀ b m, s.operation = .install b m →
    (s.result = some (.error .alreadyActive) ↔
      (b.delivered? s.before.surroundings m).isSome = true ∧ s.before.slot.isSome = true)

/-- Whatever happens in a process and in whatever order, activation is single and all or nothing. -/
theorem activation_is_single (ids : IdSource) (s : Surroundings) (network : Network)
    (ds : List Operation) : SingleActivation ((Life.fresh ids s network).history ds) where
  once := Life.countP_activates_le_one _ ds
  fills := by
    intro s hs h
    obtain ⟨k, d, rfl⟩ := Life.exists_of_mem_history hs
    exact Life.step_activates h
  keeps := by
    intro s hs h
    obtain ⟨k, d, rfl⟩ := Life.exists_of_mem_history hs
    exact Life.step_closes h
  refuses := by
    intro s hs b m hd h
    obtain ⟨k, d, rfl⟩ := Life.exists_of_mem_history hs
    cases hd
    exact Life.step_refuses h
  lasts := Life.pairwise_slot _ ds
  filled := by
    intro earlier s later h
    rw [Life.filled_iff_activated _ ds earlier s later h]
    rfl
  accepted := by
    intro s hs b m hd
    obtain ⟨k, d, rfl⟩ := Life.exists_of_mem_history hs
    cases hd
    cases Life.installed_step k b m with
    | activated provider delivered empty result _ =>
      simp [delivered, empty, Life.Step.activates, result, Guard.ofProvider]
    | refused provider delivered filled result _ => simp [filled, Life.Step.activates, result]
    | undelivered delivered idle _ _ => simp [delivered, idle]
  alreadyActive := by
    intro s hs b m hd
    obtain ⟨k, d, rfl⟩ := Life.exists_of_mem_history hs
    cases hd
    cases Life.installed_step k b m with
    | activated provider _ empty result _ => simp [empty, result]
    | refused provider delivered filled result _ => simp [delivered, filled, result]
    | undelivered delivered _ result _ => simp [delivered, result]

end TracedService
