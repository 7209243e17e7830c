import Mathlib.Data.List.Nodup
import TracedService.Proofs.Platform.Documented

/-! What detection asks the metadata server, and what makes it fail. The questions of a process are
in a fixed order; they are put one after the other until an answer cannot be used. -/

namespace TracedService

namespace MetadataServer

/-- Answers that end the questions: a status that says neither that all is well nor that there is
nothing under the key, and a body that breaks off. -/
inductive Fails (server : MetadataServer) (timeoutMillis : Nat) :
    MetadataKey → DetectionError → Prop
  | status (key : MetadataKey) (delay status : Nat) (body : Option String)
      (answer : server key = .answered delay status body) (inTime : delay < timeoutMillis)
      (present : status ≠ 404) (unsuccessful : ¬ (200 ≤ status ∧ status < 300)) :
      Fails server timeoutMillis key (.badStatus key status)
  | body (key : MetadataKey) (delay status : Nat)
      (answer : server key = .answered delay status none)
      (inTime : delay < timeoutMillis) (successful : 200 ≤ status ∧ status < 300) :
      Fails server timeoutMillis key (.unreadable key)

/-- Answers without a value that do no harm. -/
inductive Silent (server : MetadataServer) (timeoutMillis : Nat) : MetadataKey → Prop
  | unreachable (key : MetadataKey) (answer : server key = .unreachable) :
      Silent server timeoutMillis key
  | late (key : MetadataKey) (delay status : Nat) (body : Option String)
      (answer : server key = .answered delay status body) (tooLate : timeoutMillis ≤ delay) :
      Silent server timeoutMillis key
  | absent (key : MetadataKey) (delay : Nat) (body : Option String)
      (answer : server key = .answered delay 404 body) : Silent server timeoutMillis key
  | blank (key : MetadataKey) (delay status : Nat) (text : String)
      (answer : server key = .answered delay status (some text))
      (successful : 200 ≤ status ∧ status < 300) (nothing : Text.trimmed text = "") :
      Silent server timeoutMillis key

variable {server : MetadataServer} {t : Nat} {key : MetadataKey} {keys asked : List MetadataKey}
  {e : DetectionError} {failure : Option DetectionError}

theorem value?_answered (delay status : Nat) (body : Option String) :
    (MetadataAnswer.answered delay status body).value? key t =
      if t ≤ delay || status = 404 then .ok none
      else if 200 ≤ status && status < 300 then
        match body with
        | none => .error (.unreadable key)
        | some text => .ok (if Text.isBlankText text then none else some (Text.trimmed text))
      else .error (.badStatus key status) := rfl

theorem value?_eq_error_iff : (server key).value? key t = .error e ↔ server.Fails t key e := by
  constructor
  · intro h
    unfold MetadataAnswer.value? at h
    split at h
    · cases h
    · rename_i delay status body hanswer
      split at h
      · cases h
      · rename_i hfound
        simp only [Bool.or_eq_true, decide_eq_true_eq, not_or, Nat.not_le] at hfound
        split at h
        · rename_i hstatus
          simp only [Bool.and_eq_true, decide_eq_true_eq] at hstatus
          split at h
          · cases h
            exact .body key delay status hanswer hfound.1 hstatus
          · cases h
        · rename_i hstatus
          simp only [Bool.and_eq_true, decide_eq_true_eq] at hstatus
          cases h
          exact .status key delay status body hanswer hfound.1 hfound.2 hstatus
  · intro h
    cases h with
    | status delay status body answer inTime present unsuccessful =>
      rw [answer, value?_answered, if_neg (by simp; omega), if_neg (by simp; omega)]
    | body delay status answer inTime successful =>
      rw [answer, value?_answered, if_neg (by simp; omega), if_pos (by simp; omega)]

theorem value?_eq_none_iff : (server key).value? key t = .ok none ↔ server.Silent t key := by
  constructor
  · intro h
    unfold MetadataAnswer.value? at h
    split at h
    · rename_i hanswer
      exact .unreachable key hanswer
    · rename_i delay status body hanswer
      split at h
      · rename_i hmissed
        simp only [Bool.or_eq_true, decide_eq_true_eq] at hmissed
        rcases hmissed with hlate | rfl
        · exact .late key delay status body hanswer hlate
        · exact .absent key delay body hanswer
      · split at h
        · rename_i hstatus
          simp only [Bool.and_eq_true, decide_eq_true_eq] at hstatus
          split at h
          · cases h
          · rename_i text
            split at h
            · rename_i hblank
              exact .blank key delay status text hanswer hstatus (Text.isBlankText_iff.mp hblank)
            · cases h
        · cases h
  · intro h
    cases h with
    | unreachable answer => rw [answer, MetadataAnswer.value?]
    | late delay status body answer tooLate =>
      rw [answer, value?_answered, if_pos (by simp [tooLate])]
    | absent delay body answer => rw [answer, value?_answered, if_pos (by simp)]
    | blank delay status text answer successful nothing =>
      rw [answer, value?_answered]
      split
      · rfl
      · rw [if_pos (by simp; omega)]
        simp [Text.isBlankText_iff.mpr nothing]

theorem not_fails_iff :
    (∀ e, ¬ server.Fails t key e) ↔ server.Silent t key ∨ ∃ v, server.Gives t key v := by
  simp only [← value?_eq_error_iff, ← value?_eq_none_iff, ← value?_eq_some_iff]
  cases (server key).value? key t with
  | error e => simp
  | ok value => cases value <;> simp

/-- The questions `keys` are put in turn, and `asked` are those that come to it: all of them, or as
many as it takes to meet a failure. -/
inductive Asks (server : MetadataServer) (timeoutMillis : Nat) :
    List MetadataKey → List MetadataKey → Option DetectionError → Prop
  | done : Asks server timeoutMillis [] [] none
  | stop (key : MetadataKey) (keys : List MetadataKey) (e : DetectionError)
      (fails : server.Fails timeoutMillis key e) :
      Asks server timeoutMillis (key :: keys) [key] (some e)
  | next (key : MetadataKey) (keys asked : List MetadataKey) (failure : Option DetectionError)
      (passes : ∀ e, ¬ server.Fails timeoutMillis key e)
      (rest : Asks server timeoutMillis keys asked failure) :
      Asks server timeoutMillis (key :: keys) (key :: asked) failure

/-- The failure of a result, if it is one. -/
def failure? {α : Type} : Except DetectionError α → Option DetectionError
  | .error e => some e
  | .ok _ => none

theorem asks_askAll (server : MetadataServer) (t : Nat) (keys : List MetadataKey) :
    server.Asks t keys (server.askAll t keys).1 (failure? (server.askAll t keys).2) := by
  induction keys with
  | nil => exact .done
  | cons key keys ih =>
    rw [askAll]
    split
    · rename_i e he
      exact .stop key keys e (value?_eq_error_iff.mp he)
    · rename_i value hvalue
      have hpasses (e : DetectionError) : ¬ server.Fails t key e := by
        rw [← value?_eq_error_iff, hvalue]
        intro he
        cases he
      have hfailure : failure? ((server.askAll t keys).2.map fun found =>
          (value.map fun v => (key, v)).toList ++ found) = failure? (server.askAll t keys).2 := by
        cases (server.askAll t keys).2 <;> rfl
      refine .next key keys _ _ hpasses ?_
      rw [hfailure]
      exact ih

namespace Asks

theorem isPrefix (h : server.Asks t keys asked failure) : asked <+: keys := by
  induction h with
  | done => exact List.prefix_rfl
  | stop key keys e fails => exact ⟨keys, rfl⟩
  | next key keys asked failure passes rest ih => exact List.cons_prefix_cons.mpr ⟨rfl, ih⟩

theorem failure_iff (h : server.Asks t keys asked failure) :
    failure.isSome = true ↔ ∃ key ∈ asked, ∃ e, server.Fails t key e := by
  induction h with
  | done => simp
  | stop key keys e fails => simpa using ⟨e, fails⟩
  | next key keys asked failure passes rest ih =>
    rw [ih]
    constructor
    · rintro ⟨key', hkey, hfails⟩
      exact ⟨key', List.mem_cons_of_mem _ hkey, hfails⟩
    · rintro ⟨key', hkey, e, hfails⟩
      rcases List.mem_cons.mp hkey with rfl | hkey
      · exact absurd hfails (passes e)
      · exact ⟨key', hkey, e, hfails⟩

theorem of_failure (h : server.Asks t keys asked (some e)) :
    ∃ before, asked = before ++ [e.key] ∧ server.Fails t e.key e ∧
      ∀ key ∈ before, ∀ e', ¬ server.Fails t key e' := by
  generalize hfailure : some e = failure at h
  induction h with
  | done => cases hfailure
  | stop key keys e' fails =>
    cases hfailure
    have hkey : e.key = key := by
      cases fails <;> rfl
    exact ⟨[], by rw [hkey]; rfl, hkey ▸ fails, by simp⟩
  | next key keys asked failure passes rest ih =>
    obtain ⟨before, rfl, hfails, hbefore⟩ := ih hfailure
    exact ⟨key :: before, rfl, hfails, List.forall_mem_cons.mpr ⟨passes, hbefore⟩⟩

theorem of_none (h : server.Asks t keys asked none) : asked = keys := by
  generalize hfailure : none = failure at h
  induction h with
  | done => rfl
  | stop key keys e fails => cases hfailure
  | next key keys asked failure passes rest ih => rw [ih hfailure]

end Asks

end MetadataServer

theorem MetadataKey.path_injective : Function.Injective path := by
  intro a b h
  cases a <;> cases b <;> first | rfl | exact absurd h (by decide)

namespace Detection

open MetadataServer (Asks failure?)

/-- The questions of a process: about the project alone if the metadata server has nothing to say
about that, else about the platform too. -/
inductive Questions (d : Detector) (server : MetadataServer) : List MetadataKey → Prop
  | project (off : ¬ OnCloud d server) : Questions d server [.projectId]
  | further (p : Platform) (onCloud : OnCloud d server) (runs : RunsOn d server p) :
      Questions d server (.projectId :: p.keys)

theorem Questions.nodup {d : Detector} {server : MetadataServer} {keys : List MetadataKey}
    (h : Questions d server keys) : keys.Nodup := by
  cases h with
  | project off => simp
  | further p onCloud runs => cases p <;> decide

variable (d : Detector) (project : String) (server : MetadataServer)

theorem detect_of_error {e : DetectionError}
    (h : (server .projectId).value? .projectId d.timeoutMillis = .error e) :
    (detect d project server).asked = [.projectId] ∧
      (detect d project server).result = .error e := by
  unfold detect
  rw [h]
  exact ⟨rfl, rfl⟩

theorem asked_eq {found : Option String}
    (h : (server .projectId).value? .projectId d.timeoutMillis = .ok found) :
    (detect d project server).asked = .projectId ::
      (server.askAll d.timeoutMillis (furtherKeys (platformWith d found) found.isSome)).1 := by
  unfold detect
  rw [h]
  rfl

theorem questions_furtherKeys {found : Option String}
    (h : server.found? d.timeoutMillis .projectId = found) :
    Questions d server (.projectId :: furtherKeys (platformWith d found) found.isSome) := by
  have honCloud := isSome_iff h
  cases hfound : found.isSome with
  | false =>
    rw [furtherKeys_off]
    exact .project (by rw [← honCloud, hfound]; exact Bool.false_ne_true)
  | true =>
    obtain ⟨p, runs⟩ := exists_runsOn (honCloud.mp hfound)
    rw [(platformWith_eq_some_iff h).mpr runs]
    exact .further p (honCloud.mp hfound) runs

theorem exists_asks : ∃ keys, Questions d server keys ∧ Asks server d.timeoutMillis keys
    (detect d project server).asked (failure? (detect d project server).result) := by
  cases hproject : (server .projectId).value? .projectId d.timeoutMillis with
  | error e =>
    obtain ⟨hasked, hresult⟩ := detect_of_error d project server hproject
    have off : ¬ OnCloud d server := by
      rintro ⟨v, hv⟩
      rw [MetadataServer.value?_eq_some_iff.mpr hv] at hproject
      cases hproject
    rw [hasked, hresult]
    exact ⟨_, .project off, .stop _ _ _ (MetadataServer.value?_eq_error_iff.mp hproject)⟩
  | ok found =>
    have hpasses (e : DetectionError) : ¬ server.Fails d.timeoutMillis .projectId e := by
      rw [← MetadataServer.value?_eq_error_iff, hproject]
      exact nofun
    refine ⟨_, questions_furtherKeys d server (MetadataServer.found?_of_ok hproject), ?_⟩
    rw [asked_eq d project server hproject, result_eq hproject]
    refine .next _ _ _ _ hpasses ?_
    have hmap {α β : Type} (f : α → β) (x : Except DetectionError α) :
        failure? (x.map f) = failure? x := by
      cases x <;> rfl
    rw [hmap]
    exact MetadataServer.asks_askAll ..

/-- How far the questions `keys` are put, and what comes of them. -/
structure Asked (keys : List MetadataKey) (made : Detection) : Prop where
  inOrder : made.asked <+: keys
  once : (made.asked.map MetadataKey.path).Nodup
  fails_iff : (∃ e, made.result = .error e) ↔
    ∃ key ∈ made.asked, ∃ e, server.Fails d.timeoutMillis key e
  /-- A failure is that of the last question, and none came before it. -/
  failure : ∀ e, made.result = .error e → ∃ before, made.asked = before ++ [e.key] ∧
    server.Fails d.timeoutMillis e.key e ∧
    ∀ key ∈ before, ∀ e', ¬ server.Fails d.timeoutMillis key e'
  /-- Success is where every question is put and no answer is worse than silence. -/
  succeeds_iff : (∃ attributes, made.result = .ok attributes) ↔ made.asked = keys ∧
    ∀ key ∈ keys, server.Silent d.timeoutMillis key ∨ ∃ v, server.Gives d.timeoutMillis key v

/-- Detection puts the questions of its process in order, each once, and stops at the first answer
that it cannot use. It fails for no other reason. -/
theorem detect_asks : ∃ keys, Questions d server keys ∧
    Asked d server keys (detect d project server) := by
  obtain ⟨keys, hquestions, hasks⟩ := exists_asks d project server
  refine ⟨keys, hquestions, ?_⟩
  have hfailed : (∃ e, (detect d project server).result = .error e) ↔
      (failure? (detect d project server).result).isSome = true := by
    cases (detect d project server).result <;> simp [failure?]
  refine ⟨hasks.isPrefix, ?_, hfailed.trans hasks.failure_iff, ?_, ?_⟩
  · exact List.Nodup.map MetadataKey.path_injective
      (hquestions.nodup.sublist hasks.isPrefix.sublist)
  · intro e he
    rw [he] at hasks
    exact hasks.of_failure
  · simp only [← MetadataServer.not_fails_iff]
    have hiff := hasks.failure_iff
    cases hresult : (detect d project server).result with
    | error e =>
      rw [hresult] at hasks hiff
      obtain ⟨key, hkey, e', hfails⟩ := hiff.mp rfl
      simp only [reduceCtorEq, exists_false, false_iff, not_and]
      intro hall hpasses
      exact hpasses key (hall ▸ hkey) e' hfails
    | ok attributes =>
      rw [hresult] at hasks hiff
      have hall := Asks.of_none hasks
      refine iff_of_true ⟨attributes, rfl⟩ ⟨hall, ?_⟩
      intro key hkey e hfails
      cases hiff.mpr ⟨key, hall ▸ hkey, e, hfails⟩

end Detection

end TracedService
