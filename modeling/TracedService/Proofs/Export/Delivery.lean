import TracedService.Export.Delivery
import TracedService.Proofs.Export.Call

/-! What one export comes to. A printed batch stands together by tracer, a batch that is sent goes
out in one request; either keeps the spans as they are where the exporter is answered. -/

namespace TracedService

def Delivery.spans (d : Delivery) : List Span :=
  d.printed ++ d.received

namespace Exporter

variable {net : Network} {e : Exporter} {spans : List Span}

/-- The request that exports over HTTP make, or why they make none. -/
def outgoing (net : Network) (address : Http.Uri) (headers : Http.Headers) :
    Option TokenSource → Except SendFault Outgoing
  | some tokens => ((tokens.token net.tokens).mapError .token).bind fun t =>
      Outgoing.authorized t (request address headers)
  | none => Outgoing.plain (request address headers)

theorem call_eq (net : Network) (address : Http.Uri) (headers : Http.Headers)
    (tokens : Option TokenSource) :
    call net address headers tokens =
      Outgoing.call net.collector (outgoing net address headers tokens) := by
  cases tokens <;> rfl

/-- Exports work: they are printed, or they go out and the collector answers them with success. -/
inductive Answered (net : Network) : Exporter → Prop
  | debugOutput : Answered net .debugOutput
  | http {address : Http.Uri} {timeout : Nat} {headers : Http.Headers}
      {tokens : Option TokenSource} (out : Outgoing) (status : Nat) (body : Text.Utf8.Bytes)
      (made : outgoing net address headers tokens = .ok out)
      (answer : net.collector out = .answered status body true)
      (success : 200 ≤ status ∧ status < 300) :
      Answered net (.http address timeout headers tokens)

structure Delivers (net : Network) (e : Exporter) (spans : List Span) : Prop where
  result : (e.deliver net spans).result = .ok ()
  runs : (e.deliver net spans).stopped = false
  spans : (e.deliver net spans).spans = spans

theorem filter_scope_self {scope : String} {l : List Span} (h : ∀ s ∈ l, s.scope = scope) :
    l.filter (·.scope == scope) = l := by
  rw [List.filter_eq_self]
  intro s hs
  simpa using h s hs

theorem filter_scope_none {scope : String} {l : List Span} (h : ∀ s ∈ l, s.scope ≠ scope) :
    l.filter (·.scope == scope) = [] := by
  rw [List.filter_eq_nil_iff]
  intro s hs
  simpa using h s hs

theorem byScope_append {scope : String} {a rest : List Span} (ha : ∀ s ∈ a, s.scope = scope)
    (hrest : ∀ s ∈ rest, s.scope ≠ scope) : byScope (a ++ rest) = a ++ byScope rest := by
  cases a with
  | nil => rfl
  | cons s a =>
    obtain rfl : s.scope = scope := ha s (by simp)
    have hothers : ((a ++ rest).map Span.scope).filter (fun name => !name == s.scope) =
        rest.map Span.scope := by
      have hnone : (a.map Span.scope).filter (fun name => !name == s.scope) = [] := by
        simp only [List.filter_eq_nil_iff, List.mem_map]
        rintro _ ⟨t, ht, rfl⟩
        simp [ha t (List.mem_cons_of_mem _ ht)]
      have hall : (rest.map Span.scope).filter (fun name => !name == s.scope) =
          rest.map Span.scope := by
        simp only [List.filter_eq_self, List.mem_map]
        rintro _ ⟨t, ht, rfl⟩
        simpa using hrest t ht
      rw [List.map_append, List.filter_append, hnone, hall, List.nil_append]
    have hfirst : (s :: a ++ rest).filter (·.scope == s.scope) = s :: a := by
      rw [List.filter_append, filter_scope_self ha, filter_scope_none hrest, List.append_nil]
    have hlater (name : String) (hname : name ∈ (rest.map Span.scope).eraseDups) :
        (s :: a ++ rest).filter (·.scope == name) = rest.filter (·.scope == name) := by
      obtain ⟨t, ht, rfl⟩ := List.mem_map.mp (List.mem_eraseDups.mp hname)
      have hnone : (s :: a).filter (·.scope == t.scope) = [] :=
        filter_scope_none fun u hu => ha u hu ▸ (hrest t ht).symm
      rw [List.filter_append, hnone, List.nil_append]
    rw [byScope, List.cons_append, List.map_cons, List.eraseDups_cons, List.flatMap_cons, hothers,
      ← List.cons_append, hfirst, byScope, List.flatMap_def, List.flatMap_def,
      List.map_congr_left hlater]

/-- All spans of the first tracer come before those of the second, and there is no third. -/
def Grouped (first second : String) (spans : List Span) : Prop :=
  ∃ a b, spans = a ++ b ∧ (∀ s ∈ a, s.scope = first) ∧ ∀ s ∈ b, s.scope = second

variable {first second : String}

theorem byScope_of_grouped (h : Grouped first second spans) : byScope spans = spans := by
  obtain ⟨a, b, rfl, ha, hb⟩ := h
  have alone {scope : String} {l : List Span} (hl : ∀ s ∈ l, s.scope = scope) : byScope l = l := by
    have happend := byScope_append hl (List.forall_mem_nil fun s : Span => s.scope ≠ scope)
    simpa [byScope] using happend
  by_cases heq : first = second
  · apply alone
    intro s hs
    rcases List.mem_append.mp hs with hs | hs
    · rw [ha s hs, heq]
    · exact hb s hs
  · rw [byScope_append ha fun s hs => hb s hs ▸ Ne.symm heq, alone hb]

theorem Grouped.of_part {batch : List Span} (h : Grouped first second spans)
    (hbatch : batch <:+: spans) : Grouped first second batch := by
  obtain ⟨a, b, rfl, ha, hb⟩ := h
  obtain ⟨before, after, h⟩ := hbatch
  have hcut : batch = ((a ++ b).drop before.length).take batch.length := by
    simp [← h]
  rw [List.drop_append, List.take_append] at hcut
  refine ⟨_, _, hcut, fun s hs => ?_, fun s hs => ?_⟩
  · exact ha s (List.mem_of_mem_drop (List.mem_of_mem_take hs))
  · exact hb s (List.mem_of_mem_drop (List.mem_of_mem_take hs))

/-- Where exports work, a batch of two tracers one after the other is delivered as it is. -/
theorem Answered.delivers (h : Answered net e) (hspans : Grouped first second spans) :
    Delivers net e spans := by
  cases h with
  | debugOutput => exact ⟨rfl, rfl, by simp [deliver, Delivery.spans, byScope_of_grouped hspans]⟩
  | @http address timeout headers tokens out status body made answer success =>
    have hcall : call net address headers tokens = ⟨.ok ⟨status, body, none⟩, some out⟩ := by
      have hfine : ¬ (400 ≤ status && status < 600) = true := by
        simp only [Bool.and_eq_true, decide_eq_true_eq]
        omega
      rw [call_eq, made]
      simp [Outgoing.call, answer, Call.answered, hfine]
    constructor
    · simp [deliver, hcall, mapError_ok, Except.map]
    · simp [deliver, hcall]
    · simp [deliver, hcall, Delivery.spans]

end Exporter

end TracedService
