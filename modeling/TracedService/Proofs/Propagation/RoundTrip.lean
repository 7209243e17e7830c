import TracedService.Proofs.Propagation.Baggage
import TracedService.Proofs.Propagation.Hop
import TracedService.Proofs.Trace.Baggage

/-! One hop loses nothing: what was read from headers is read again after it has been sent on. -/

namespace TracedService.Hop

open Http (Headers isTextChar)

/-- A context that survives a hop: its span is a valid one from outside, its vendor list can be read
back, and so can its baggage. -/
structure Portable (c : Context) : Prop where
  outside : ∀ a, c.active = some a →
    a.recorder = none ∧ a.context.valid = true ∧ a.context.remote = true
  state : TraceState.read? c.spanContext.traceState.header = some c.spanContext.traceState
  stateText : ∀ d ∈ c.spanContext.traceState.header, isTextChar d = true
  entries : ∀ e ∈ c.baggage.entries, BaggageHeader.Sendable e

theorem clear_of_get? {h : Headers} {t : String} (hh : ∀ v ∈ h.values baggageHeader, 0x25 ∉ v)
    (ht : h.get? baggageHeader = some t) : BaggageHeader.Clear t.toList := by
  obtain ⟨n, v, hn, hv, htext⟩ := Headers.of_get? ht
  rw [read?_baggageHeader] at hn
  cases hn
  intro c hc
  refine ⟨(htext c hc).1, ?_⟩
  rintro rfl
  exact hh v hv (htext _ hc).2

/-- The span that headers name is a valid one from outside, and its vendor list can be read back. -/
theorem of_spanContext? {h : Headers} {c : SpanContext} (hc : spanContext? h = some c) :
    c.valid = true ∧ c.remote = true ∧ TraceState.read? c.traceState.header = some c.traceState ∧
      ∀ d ∈ c.traceState.header, isTextChar d = true := by
  simp only [spanContext?, Option.bind_eq_bind, Option.bind_eq_some_iff] at hc
  obtain ⟨c', hread, hc⟩ := hc
  cases hc
  obtain ⟨hvalid, hremote, -⟩ := TraceParent.of_read? hread
  refine ⟨hvalid, hremote, ?_⟩
  cases ht : (h.get? traceStateHeader).bind fun t => TraceState.read? t.toList with
  | none =>
    refine ⟨rfl, ?_⟩
    intro d hd
    cases hd
  | some state =>
    obtain ⟨text, htext, hstate⟩ := Option.bind_eq_some_iff.mp ht
    obtain ⟨_, _, _, _, hchars⟩ := Headers.of_get? htext
    refine ⟨TraceState.read?_header hstate, ?_⟩
    intro d hd
    rcases TraceState.mem_of_mem_header hstate hd with rfl | rfl | hd
    · decide
    · decide
    · exact (hchars d hd).1

theorem portable_extract {h : Headers} (hh : ∀ v ∈ h.values baggageHeader, 0x25 ∉ v) :
    Portable (extract {} h) := by
  have hactive : (extract {} h).active = _ := extract_active
  have hentries : ∀ e ∈ (extract {} h).baggage.entries, BaggageHeader.Sendable e := by
    intro e he
    rw [extract, extractBaggage] at he
    split at he
    · rename_i t ht
      rw [extractSpan_baggage] at he
      rcases Baggage.of_mem_insertAll he with he | he
      · cases he
      · exact BaggageHeader.sendable_of_mem_read (clear_of_get? hh ht) he
    · rw [extractSpan_baggage] at he
      cases he
  cases hc : spanContext? h with
  | none =>
    rw [hc] at hactive
    have hspan : (extract {} h).spanContext = .invalid := by
      rw [Context.spanContext, hactive]
    refine ⟨?_, ?_, ?_, hentries⟩
    · intro a ha
      rw [hactive] at ha
      cases ha
    · rw [hspan]
      rfl
    · rw [hspan]
      intro d hd
      cases hd
  | some c =>
    obtain ⟨hvalid, hremote, hstate, htext⟩ := of_spanContext? hc
    rw [hc] at hactive
    have hspan : (extract {} h).spanContext = c := by
      rw [Context.spanContext, hactive]
    refine ⟨?_, by rwa [hspan], by rwa [hspan], hentries⟩
    intro a ha
    rw [hactive] at ha
    cases ha
    exact ⟨rfl, hvalid, hremote⟩

theorem get?_empty (name : String) : ({} : Headers).get? name = none := by
  rw [Headers.get?]
  cases Http.HeaderName.read? name <;> rfl

theorem spanContext?_inject {c : Context} (hc : Portable c) :
    spanContext? (inject c {}) = c.active.map (·.context) := by
  cases ha : c.active with
  | none =>
    have hspan : c.spanContext.valid = false := by
      rw [Context.spanContext, ha]
      rfl
    have hparent : (inject c {}).get? traceParentHeader = none := by
      rw [get?_inject_traceParent, hspan]
      exact get?_empty _
    rw [spanContext?, hparent]
    rfl
  | some a =>
    obtain ⟨-, hvalid, hremote⟩ := hc.outside a ha
    have hspan : c.spanContext = a.context := by
      rw [Context.spanContext, ha]
    have hstate := hc.state
    obtain ⟨text, htext, hread, -⟩ := read?_inject_traceParent (hspan ▸ hvalid) {}
    have htracestate : ((inject c {}).get? traceStateHeader).bind
        (fun t => TraceState.read? t.toList) = some a.context.traceState := by
      rw [get?_inject_traceState hc.stateText, hspan, if_pos hvalid, Option.bind_some,
        String.toList_ofList, ← hspan]
      exact hstate
    rw [spanContext?, htext, Option.getD_some, hread, htracestate]
    simp only [bind, Option.bind, Option.getD_some, Option.map_some, hspan, ← hremote]

theorem extractBaggage_inject {c d : Context} (hc : Portable c) (hd : d.baggage = {}) :
    extractBaggage d (inject c {}) = { d with baggage := c.baggage } := by
  have hbaggage := get?_inject_baggage (h := {})
    (BaggageHeader.write_isText fun e he => (hc.entries e he).passable)
  rw [extractBaggage, hbaggage]
  by_cases he : c.baggage.entries.isEmpty = true
  · have hempty : c.baggage = {} := Baggage.eq_of_entries (List.isEmpty_iff.mp he)
    rw [if_pos he, get?_empty, hempty, ← hd]
  · have hne : c.baggage.entries ≠ [] := fun hn => he (List.isEmpty_iff.mpr hn)
    rw [if_neg he]
    simp only [String.toList_ofList, BaggageHeader.read_write hc.entries hne, hd,
      Baggage.insertAll_entries]

/-- A context that survives a hop is read again as it was sent. -/
theorem extract_inject_of_portable {c : Context} (hc : Portable c) :
    extract {} (inject c {}) = c := by
  have hspan : extractSpan {} (inject c {}) = { c with baggage := {} } := by
    rw [extractSpan, spanContext?_inject hc]
    cases ha : c.active with
    | none => rfl
    | some a =>
      obtain ⟨hrecorder, -⟩ := hc.outside a ha
      change ({ active := some ⟨a.context, none⟩ } : Context) = { active := some a }
      rw [← hrecorder]
  rw [extract, hspan, extractBaggage_inject hc rfl]

/-- The first extraction is found again after the hop: the span with its ids, its decision and its
vendor list, and all baggage entries, in whatever order they were sent. -/
theorem extract_inject_extract {h : Headers} (hh : ∀ v ∈ h.values baggageHeader, 0x25 ∉ v)
    {sent : Baggage} (hsent : sent.entries.Perm (extract {} h).baggage.entries) :
    extract {} (inject { extract {} h with baggage := sent } {}) =
      { extract {} h with baggage := sent } := by
  have hc := portable_extract hh
  have hentries : ∀ e ∈ sent.entries, BaggageHeader.Sendable e :=
    fun e he => hc.entries e (hsent.mem_iff.mp he)
  exact extract_inject_of_portable ⟨hc.outside, hc.state, hc.stateText, hentries⟩

/-- Blanks, a property and a list that nobody can read, and entries sent the other way round. -/
theorem extract_inject_extract_swapped : ∃ (h : Headers) (sent : Baggage),
    h.get? traceParentHeader = some "00-0af7651916cd43dd8448eb211c80319c-b7ad6b7169203331-01" ∧
      h.get? traceStateHeader = some "vendor=1,,bad" ∧
      h.get? baggageHeader = some "tenant = acme ;tier=gold,user=a b" ∧
      sent.entries = [⟨"user".toList, "a b".toList, []⟩,
        ⟨"tenant".toList, "acme".toList, "tier=gold".toList⟩] ∧
      sent.entries.Perm (extract {} h).baggage.entries ∧
      extract {} (inject { extract {} h with baggage := sent } {}) =
        { extract {} h with baggage := sent } := by
  refine ⟨⟨[(traceParentHeader, Text.Utf8.encodeText
      "00-0af7651916cd43dd8448eb211c80319c-b7ad6b7169203331-01"),
    (traceStateHeader, Text.Utf8.encodeText "vendor=1,,bad"),
    (baggageHeader, Text.Utf8.encodeText "tenant = acme ;tier=gold,user=a b")]⟩,
    Baggage.insertAll {} [⟨"user".toList, "a b".toList, []⟩,
      ⟨"tenant".toList, "acme".toList, "tier=gold".toList⟩], ?_⟩
  refine ⟨by decide +kernel, by decide +kernel, by decide +kernel, by decide +kernel, ?_⟩
  refine ⟨by decide +kernel, extract_inject_extract ?_ ?_⟩
  · decide +kernel
  · decide +kernel

end TracedService.Hop
