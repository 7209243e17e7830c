import TracedService.Proofs.Export.Emission

/-! Self-tests on processors that panic. The processors are told of a span when it starts, and of a
sampled one when it ends, be it at the end of the test or because its start has failed and it is
given up. One panic is caught; two in one test, or one whose payload panics in turn, are not. -/

namespace TracedService.SelfTest

variable {t : Tracing} {ps : List Processor} {r : Recorder} {a : ActiveSpan} {s : Span}
  {rest : List (Nat × Span)}

/-- The first crash at the end of a span. -/
def endCrash? (ps : List Processor) : Option Crash :=
  ps.findSome? (·.atEnd)

/-- The crashes of one test in order: one at the start at most, and one at the end of a span that is
sampled. Only in the latter case can there be two, and the second one comes while the first is on
its way out. -/
def crashes (ps : List Processor) (sampled : Bool) : List Crash :=
  (startCrash? ps).toList ++ if sampled then (endCrash? ps).toList else []

theorem handOver_crash (s : Span) (ps : List Processor) : (handOver s ps).2 = endCrash? ps := by
  induction ps with
  | nil => rfl
  | cons p ps ih =>
    rw [handOver, endCrash?, List.findSome?_cons]
    cases p.atEnd with
    | some payload => rfl
    | none => exact ih

theorem handOver_exports (s : Span) (h : endCrash? ps = none) :
    (handOver s ps).1 = List.replicate (ps.countP (·.exports)) s := by
  induction ps with
  | nil => rfl
  | cons p ps ih =>
    rw [endCrash?, List.findSome?_cons] at h
    rw [handOver]
    cases hp : p.atEnd with
    | some payload =>
      rw [hp] at h
      cases h
    | none =>
      rw [hp] at h
      have ih := ih h
      cases hexports : p.exports <;> simp [ih, hexports, List.replicate_succ]

/-- A span in front is found, if it is recorded at all. -/
theorem find?_of_leads (h : r.Leads a s rest) : r.find? a = a.recorder.map fun _ => s := by
  have hrunning : r.running = (a.recorder.map fun n => (n, s)).toList ++ rest := h
  rw [Recorder.find?, hrunning]
  cases a.recorder <;> simp

theorem finish_of_leads (ps : List Processor) (h : r.Leads a s rest) :
    (finish ps r a).1 = (if a.recorder.isSome then endCrash? ps else none) ∧
      (finish ps r a).2.traces = r.traces ∧
      (finish ps r a).2.ended = r.ended ++ if a.recorder.isSome then (handOver s ps).1 else [] := by
  have hfound := find?_of_leads h
  cases ha : a.recorder with
  | none =>
    rw [ha] at hfound
    rw [finish, Recorder.close, hfound]
    exact ⟨rfl, rfl, (List.append_nil _).symm⟩
  | some n =>
    rw [ha] at hfound
    rw [finish, Recorder.close, hfound]
    exact ⟨handOver_crash s ps, rfl, rfl⟩

def outcomeOf : List Crash → Outcome
  | [] => .passed
  | [c] => .ofCaught c
  | _ :: _ :: _ => .aborted

/-- The span of a test as it ends: without its event if the start has failed. -/
def spanOf (t : Tracing) (ps : List Processor) (r : Recorder) : Span :=
  let s := Span.begin request (r.nextContext t {}) 0
  match startCrash? ps with
  | some _ => s
  | none => s.addEvent ⟨eventName, []⟩

/-- The recorder when the span of a test is about to end. -/
def beforeEnd (t : Tracing) (ps : List Processor) (r : Recorder) : Recorder :=
  let (a, started) := r.start t request {}
  match startCrash? ps with
  | some _ => started
  | none => started.update a (Span.addEvent ⟨eventName, []⟩)

/-- The end of the span: behind its event, or as soon as the start has failed. -/
def ending (t : Tracing) (ps : List Processor) (r : Recorder) : Option Crash × Recorder :=
  finish ps (beforeEnd t ps r) (r.start t request {}).1

theorem run_eq (t : Tracing) (ps : List Processor) (r : Recorder) :
    run t ps r = (outcomeOf ((startCrash? ps).toList ++ (ending t ps r).1.toList),
      (ending t ps r).2) := by
  unfold run ending beforeEnd
  cases startCrash? ps with
  | none =>
    dsimp only
    generalize finish ps _ _ = ended
    obtain ⟨_ | crash, after⟩ := ended <;> rfl
  | some payload =>
    dsimp only
    generalize finish ps _ _ = ended
    obtain ⟨_ | crash, after⟩ := ended <;> rfl

theorem beforeEnd_spec (t : Tracing) (ps : List Processor) (r : Recorder) :
    (beforeEnd t ps r).Leads (r.start t request {}).1 (spanOf t ps r) r.running ∧
      (beforeEnd t ps r).traces = r.traces + 1 ∧ (beforeEnd t ps r).ended = r.ended := by
  have hleads := Recorder.leads_start t r request {}
  have htraces := Recorder.start_traces t r request {}
  have hended := Recorder.start_ended t r request {}
  unfold beforeEnd spanOf
  cases startCrash? ps with
  | none => exact ⟨hleads.update (Span.addEvent ⟨eventName, []⟩), htraces, hended⟩
  | some payload => exact ⟨hleads, htraces, hended⟩

theorem ending_spec (t : Tracing) (ps : List Processor) (r : Recorder) :
    (ending t ps r).1 = (if r.sampled t {} then endCrash? ps else none) ∧
      (ending t ps r).2.traces = r.traces + 1 ∧
      (ending t ps r).2.ended =
        r.ended ++ if r.sampled t {} then (handOver (spanOf t ps r) ps).1 else [] := by
  obtain ⟨hleads, htraces, hended⟩ := beforeEnd_spec t ps r
  have hrecorded : (r.start t request {}).1.recorder.isSome = r.sampled t {} := by
    rw [Recorder.start_recorder]
    cases r.sampled t {} <;> rfl
  obtain ⟨hcrash, htraces', hended'⟩ := finish_of_leads ps hleads
  rw [hrecorded] at hcrash hended'
  exact ⟨hcrash, htraces'.trans htraces, hended'.trans (congrArg (· ++ _) hended)⟩

/-- What a test comes to is a matter of its crashes. -/
theorem run_outcome (t : Tracing) (ps : List Processor) (r : Recorder) :
    (run t ps r).1 = outcomeOf (crashes ps (r.sampled t {})) := by
  rw [run_eq, crashes, (ending_spec t ps r).1]
  cases r.sampled t {} <;> rfl

theorem run_traces (t : Tracing) (ps : List Processor) (r : Recorder) :
    (run t ps r).2.traces = r.traces + 1 := by
  rw [run_eq]
  exact (ending_spec t ps r).2.1

theorem run_ended (t : Tracing) (ps : List Processor) (r : Recorder) :
    (run t ps r).2.ended =
      r.ended ++ if r.sampled t {} then (handOver (spanOf t ps r) ps).1 else [] := by
  rw [run_eq]
  exact (ending_spec t ps r).2.2

theorem startCrash?_eq_none_iff : startCrash? ps = none ↔ ∀ p ∈ ps, p.atStart = none :=
  List.findSome?_eq_none_iff

theorem endCrash?_eq_none_iff : endCrash? ps = none ↔ ∀ p ∈ ps, p.atEnd = none :=
  List.findSome?_eq_none_iff

theorem crashes_eq_nil_iff {sampled : Bool} : crashes ps sampled = [] ↔
    (∀ p ∈ ps, p.atStart = none) ∧ (sampled = true → ∀ p ∈ ps, p.atEnd = none) := by
  rw [← startCrash?_eq_none_iff, ← endCrash?_eq_none_iff, crashes]
  cases sampled <;> simp

theorem outcomeOf_eq_passed_iff {cs : List Crash} : outcomeOf cs = .passed ↔ cs = [] := by
  unfold outcomeOf Outcome.ofCaught
  split
  · simp
  · split <;> simp
  · simp

theorem eq_of_outcomeOf_eq_failed {cs : List Crash} {c : Crash} (h : outcomeOf cs = .failed c) :
    cs = [c] := by
  unfold outcomeOf Outcome.ofCaught at h
  split at h
  · cases h
  · split at h <;> cases h
    rfl
  · cases h

/-- A test returns if it has one crash at most, and that with a payload that can be dropped. -/
theorem returns_outcomeOf_iff {cs : List Crash} :
    (outcomeOf cs).returns = true ↔ cs.length ≤ 1 ∧ .volatile ∉ cs := by
  unfold outcomeOf Outcome.ofCaught
  split
  · simp [Outcome.returns]
  · split <;> simp_all [Outcome.returns, eq_comm]
  · simp [Outcome.returns]

/-- Tests in turn, each on the processors as they are by then, as long as they return. -/
def inTurn (t : Tracing) : List (List Processor) → Recorder → List Outcome × Recorder
  | [], r => ([], r)
  | ps :: calls, r =>
    let (o, r) := run t ps r
    if o.returns then (o :: (inTurn t calls r).1, (inTurn t calls r).2) else ([o], r)

variable {before after calls others : List (List Processor)}

theorem inTurn_cons_of_returns (h : (run t ps r).1.returns = true) : inTurn t (ps :: after) r =
    ((run t ps r).1 :: (inTurn t after (run t ps r).2).1, (inTurn t after (run t ps r).2).2) := by
  rw [inTurn]
  exact if_pos h

theorem inTurn_cons_of_not_returns (h : (run t ps r).1.returns = false) :
    inTurn t (ps :: after) r = ([(run t ps r).1], (run t ps r).2) := by
  rw [inTurn]
  exact if_neg (ne_true_of_eq_false h)

theorem inTurn_singleton : inTurn t [ps] r = ([(run t ps r).1], (run t ps r).2) := by
  cases h : (run t ps r).1.returns with
  | true => rw [inTurn_cons_of_returns h]; rfl
  | false => exact inTurn_cons_of_not_returns h

/-- Every test of a run goes back to its caller. -/
def Returned (t : Tracing) (calls : List (List Processor)) (r : Recorder) : Prop :=
  ∀ o ∈ (inTurn t calls r).1, o.returns = true

theorem returned_cons_iff : Returned t (ps :: calls) r ↔
    (run t ps r).1.returns = true ∧ Returned t calls (run t ps r).2 := by
  unfold Returned
  cases h : (run t ps r).1.returns with
  | true => rw [inTurn_cons_of_returns h, List.forall_mem_cons, h]
  | false => simp [inTurn_cons_of_not_returns h, h]

/-- Behind tests that return, each of which takes the ids of one trace, the others go on. -/
theorem inTurn_append (after : List (List Processor)) (h : Returned t before r) :
    (inTurn t before r).2.traces = r.traces + before.length ∧
      inTurn t (before ++ after) r =
        ((inTurn t before r).1 ++ (inTurn t after (inTurn t before r).2).1,
          (inTurn t after (inTurn t before r).2).2) := by
  induction before generalizing r with
  | nil => exact ⟨rfl, rfl⟩
  | cons ps before ih =>
    obtain ⟨hfirst, hrest⟩ := returned_cons_iff.mp h
    obtain ⟨htraces, happend⟩ := ih hrest
    rw [List.cons_append, inTurn_cons_of_returns hfirst, inTurn_cons_of_returns hfirst, happend]
    refine ⟨?_, rfl⟩
    rw [htraces, run_traces, List.length_cons]
    omega

/-- The rate samples the test at a place of a run. -/
def sampledAt (t : Tracing) (r : Recorder) (i : Nat) : Bool :=
  t.policy.samples {} (t.ids.trace (r.traces + i))

theorem sampledAt_run (ps : List Processor) (i : Nat) :
    sampledAt t (run t ps r).2 i = sampledAt t r (i + 1) := by
  rw [sampledAt, run_traces, sampledAt, Nat.add_assoc, Nat.add_comm 1]

/-- What the tests come to, each on its own. -/
def outcomes (t : Tracing) (calls : List (List Processor)) (r : Recorder) : List Outcome :=
  calls.mapIdx fun i ps => outcomeOf (crashes ps (sampledAt t r i))

theorem outcomes_cons : outcomes t (ps :: calls) r =
    (run t ps r).1 :: outcomes t calls (run t ps r).2 := by
  simp only [outcomes, List.mapIdx_cons, run_outcome, sampledAt_run]
  rfl

theorem getElem?_outcomes (i : Nat) : (outcomes t calls r)[i]? =
    calls[i]?.map fun ps => outcomeOf (crashes ps (sampledAt t r i)) :=
  List.getElem?_mapIdx

theorem inTurn_of_returned (h : Returned t calls r) :
    (inTurn t calls r).1 = outcomes t calls r := by
  induction calls generalizing r with
  | nil => rfl
  | cons ps calls ih =>
    obtain ⟨hfirst, hrest⟩ := returned_cons_iff.mp h
    rw [inTurn_cons_of_returns hfirst, outcomes_cons, ih hrest]

theorem returned_iff : Returned t calls r ↔ ∀ o ∈ outcomes t calls r, o.returns = true := by
  induction calls generalizing r with
  | nil => exact Iff.rfl
  | cons ps calls ih => rw [returned_cons_iff, outcomes_cons, List.forall_mem_cons, ih]

theorem forall_mem_outcomes_iff {P : Outcome → Prop} : (∀ o ∈ outcomes t calls r, P o) ↔
    ∀ i ps, calls[i]? = some ps → P (outcomeOf (crashes ps (sampledAt t r i))) := by
  constructor
  · intro h i ps hi
    refine h _ (List.mem_of_getElem? (i := i) ?_)
    rw [getElem?_outcomes, hi]
    rfl
  · intro h o ho
    obtain ⟨i, hi⟩ := List.mem_iff_getElem?.mp ho
    rw [getElem?_outcomes, Option.map_eq_some_iff] at hi
    obtain ⟨ps, hps, rfl⟩ := hi
    exact h i ps hps

theorem Returned.take (h : Returned t calls r) (i : Nat) : Returned t (calls.take i) r := by
  rw [returned_iff, forall_mem_outcomes_iff] at h ⊢
  intro j ps hj
  rw [List.getElem?_take, Option.ite_none_right_eq_some] at hj
  exact h j ps hj.2

theorem spanOf_of_quiet (h : startCrash? ps = none) :
    (spanOf t ps r).name = "InitializeTracerSpan" ∧
      (spanOf t ps r).events = [⟨"Tracer initialized successfully", []⟩] := by
  rw [spanOf, h]
  exact ⟨rfl, rfl⟩

/-- What a test that passes hands on, behind others that return. -/
theorem ended_inTurn (h : Returned t before r)
    (quiet : crashes ps (sampledAt t r before.length) = []) :
    ∃ s : Span, s.name = "InitializeTracerSpan" ∧
      s.events = [⟨"Tracer initialized successfully", []⟩] ∧
      (inTurn t (before ++ [ps]) r).2.ended = (inTurn t before r).2.ended ++
        if sampledAt t r before.length then List.replicate (ps.countP (·.exports)) s else [] := by
  obtain ⟨hstart, hend⟩ := crashes_eq_nil_iff.mp quiet
  obtain ⟨htraces, happend⟩ := inTurn_append [ps] h
  obtain ⟨hname, hevents⟩ := spanOf_of_quiet (t := t) (r := (inTurn t before r).2)
    (startCrash?_eq_none_iff.mpr hstart)
  have hsampled : (inTurn t before r).2.sampled t {} = sampledAt t r before.length := by
    rw [sampledAt, ← htraces]
    rfl
  refine ⟨_, hname, hevents, ?_⟩
  rw [happend, inTurn_singleton, run_ended, hsampled]
  cases hcase : sampledAt t r before.length with
  | false => rfl
  | true => rw [if_pos rfl, if_pos rfl, handOver_exports _ (endCrash?_eq_none_iff.mpr (hend hcase))]

/-- The event that tells of a test that has passed. -/
def emitted : Log.Event where
  level := .info
  target := "tracer_bootstrap::tracing::init"
  message := "Tracer self-test span emitted"
  fields := [("span", .quoted "InitializeTracerSpan")]

/-- What is promised of self-tests on one provider: every one returns, and what it comes to is a
matter of its own panics. -/
structure Contained (t : Tracing) (calls : List (List Processor)) (r : Recorder) : Prop where
  returned : (inTurn t calls r).1.length = calls.length ∧ Returned t calls r
  passed : ∀ i ps, calls[i]? = some ps → ((inTurn t calls r).1[i]? = some .passed ↔
    (∀ p ∈ ps, p.atStart = none) ∧ (sampledAt t r i = true → ∀ p ∈ ps, p.atEnd = none))
  failed : ∀ i ps c, calls[i]? = some ps → (inTurn t calls r).1[i]? = some (.failed c) →
    crashes ps (sampledAt t r i) = [c] ∧
      (fault? (.failed c)).map StartupFault.message = some ("Tracer self-test failed: " ++
        match c with
        | .text text => text
        | _ => "unknown panic")
  logged : ∀ o ∈ (inTurn t calls r).1,
    (notices o).map Notice.event = if o = .passed then [emitted] else []
  exported : ∀ i ps, calls[i]? = some ps → (inTurn t calls r).1[i]? = some .passed →
    ∃ s : Span, s.name = "InitializeTracerSpan" ∧
      s.events = [⟨"Tracer initialized successfully", []⟩] ∧
      (inTurn t (calls.take (i + 1)) r).2.ended = (inTurn t (calls.take i) r).2.ended ++
        if sampledAt t r i then List.replicate (ps.countP (·.exports)) s else []
  alone : ∀ (others : List (List Processor)) (i : Nat), others[i]? = calls[i]? →
    Returned t others r → (inTurn t others r).1[i]? = (inTurn t calls r).1[i]?

theorem contained_of_returned (h : Returned t calls r) : Contained t calls r := by
  have houtcomes := inTurn_of_returned h
  have hat : ∀ i ps, calls[i]? = some ps →
      (inTurn t calls r).1[i]? = some (outcomeOf (crashes ps (sampledAt t r i))) := by
    intro i ps hi
    rw [houtcomes, getElem?_outcomes, hi]
    rfl
  refine ⟨⟨?_, h⟩, ?_, ?_, ?_, ?_, ?_⟩
  · rw [houtcomes, outcomes, List.length_mapIdx]
  · intro i ps hi
    rw [hat i ps hi, Option.some_inj, outcomeOf_eq_passed_iff, crashes_eq_nil_iff]
  · intro i ps c hi hfailed
    rw [hat i ps hi, Option.some_inj] at hfailed
    refine ⟨eq_of_outcomeOf_eq_failed hfailed, ?_⟩
    cases c <;> rfl
  · intro o _
    cases o <;> rfl
  · intro i ps hi hpassed
    rw [hat i ps hi, Option.some_inj, outcomeOf_eq_passed_iff] at hpassed
    have hlength : (calls.take i).length = i :=
      List.length_take_of_le (Nat.le_of_lt (List.getElem?_eq_some_iff.mp hi).1)
    have hnext : calls.take (i + 1) = calls.take i ++ [ps] := by
      rw [List.take_add_one, hi]
      rfl
    have hended := ended_inTurn (h.take i) (by rwa [hlength])
    rwa [hlength, ← hnext] at hended
  · intro others i hi hothers
    rw [inTurn_of_returned hothers, houtcomes, getElem?_outcomes, getElem?_outcomes, hi]

/-- Self-tests contain their panics exactly if each has one at most, and that with a payload that
can be dropped. With a panic at the start of a sampled span and another one at its end, which its
destructor brings about, the process ends; and a payload that panics when it is dropped gets past
the test that has caught it. -/
theorem contained_iff (t : Tracing) (calls : List (List Processor)) (r : Recorder) :
    Contained t calls r ↔ ∀ i ps, calls[i]? = some ps →
      (crashes ps (sampledAt t r i)).length ≤ 1 ∧ .volatile ∉ crashes ps (sampledAt t r i) := by
  simp only [← returns_outcomeOf_iff]
  rw [← forall_mem_outcomes_iff (P := fun o => o.returns = true), ← returned_iff]
  exact ⟨fun h => h.returned.2, contained_of_returned⟩

/-- Ids in order, all traces sampled. -/
def everyTrace : Tracing :=
  ⟨.alwaysOn, ⟨fun n => BitVec.ofNat 128 (n + 1), fun n => BitVec.ofNat 64 (n + 1)⟩⟩

/-- An exporter, and a processor that panics when a span starts and when it ends. -/
def helpless : List Processor :=
  [{ exports := true }, { atStart := some (.text "no room"), atEnd := some (.text "no room") }]

theorem not_contained_helpless :
    (inTurn everyTrace [helpless] {}).1 = [.aborted] ∧ ¬ Contained everyTrace [helpless] {} := by
  have haborted : (inTurn everyTrace [helpless] {}).1 = [.aborted] := by decide +kernel
  refine ⟨haborted, fun h => ?_⟩
  have hreturns := h.returned.2 .aborted (haborted ▸ List.mem_singleton_self _)
  cases hreturns

end TracedService.SelfTest
