import TracedService.Proofs.Propagation.TraceParent
import TracedService.Propagation.Hop

/-! Span and baggage are read by themselves, and each of the three headers is written by itself:
writing one leaves the others as they are. -/

namespace TracedService.Hop

open Http (Headers isTextChar)

variable {c : Context} {h : Headers}

@[simp] theorem extractBaggage_active : (extractBaggage c h).active = c.active := by
  unfold extractBaggage
  split <;> rfl

@[simp] theorem extractSpan_baggage : (extractSpan c h).baggage = c.baggage := by
  unfold extractSpan
  split <;> rfl

theorem extract_active : (extract c h).active =
    match spanContext? h with
    | some s => some ⟨s, none⟩
    | none => c.active := by
  rw [extract, extractBaggage_active, extractSpan]
  cases spanContext? h <;> rfl

theorem read?_traceParentHeader :
    Http.HeaderName.read? traceParentHeader = some traceParentHeader := by
  decide +kernel

theorem read?_traceStateHeader :
    Http.HeaderName.read? traceStateHeader = some traceStateHeader := by
  decide +kernel

theorem read?_baggageHeader : Http.HeaderName.read? baggageHeader = some baggageHeader := by
  decide +kernel

theorem get?_injectBaggage_of_ne {name : String} (hname : Http.HeaderName.read? name = some name)
    (hne : name ≠ baggageHeader) : (injectBaggage c h).get? name = h.get? name := by
  unfold injectBaggage
  split
  · rfl
  · exact Headers.get?_set_of_ne read?_baggageHeader hname hne

/-- The `traceparent` header names the active span, and stays as it is without a valid one. -/
theorem get?_inject_traceParent : (inject c h).get? traceParentHeader =
    if c.spanContext.valid then some (String.ofList (TraceParent.write c.spanContext))
    else h.get? traceParentHeader := by
  have hwritten : ∀ d ∈ (String.ofList (TraceParent.write c.spanContext)).toList,
      isTextChar d = true := by
    rw [String.toList_ofList]
    exact TraceParent.write_isText _
  rw [inject, get?_injectBaggage_of_ne read?_traceParentHeader (by decide), injectSpan]
  by_cases hv : c.spanContext.valid = true
  · rw [if_pos hv, if_pos hv, Headers.get?_set_of_ne read?_traceStateHeader read?_traceParentHeader
      (by decide), Headers.get?_set_self read?_traceParentHeader hwritten]
  · rw [if_neg hv, if_neg hv]

/-- Whoever reads it finds ids and decision, and the flags say `01` where the span is sampled. -/
theorem read?_inject_traceParent (hv : c.spanContext.valid = true) (h : Headers) : ∃ text,
    (inject c h).get? traceParentHeader = some text ∧
      TraceParent.read? text.toList =
        some ⟨c.spanContext.traceId, c.spanContext.spanId, c.spanContext.sampled, true, {}⟩ ∧
      text.toList.drop 53 = if c.spanContext.sampled then ['0', '1'] else ['0', '0'] := by
  refine ⟨_, by rw [get?_inject_traceParent, if_pos hv], ?_⟩
  rw [String.toList_ofList]
  exact ⟨TraceParent.read?_write hv, TraceParent.drop_write _⟩

theorem get?_inject_traceState
    (hstate : ∀ d ∈ c.spanContext.traceState.header, isTextChar d = true) :
    (inject c h).get? traceStateHeader =
      if c.spanContext.valid then some (String.ofList c.spanContext.traceState.header)
      else h.get? traceStateHeader := by
  rw [inject, get?_injectBaggage_of_ne read?_traceStateHeader (by decide), injectSpan]
  by_cases hv : c.spanContext.valid = true
  · rw [if_pos hv, if_pos hv]
    exact Headers.get?_set_self read?_traceStateHeader (by rwa [String.toList_ofList])
  · rw [if_neg hv, if_neg hv]

theorem get?_inject_baggage (hwritten : ∀ d ∈ BaggageHeader.write c.baggage, isTextChar d = true) :
    (inject c h).get? baggageHeader =
      if c.baggage.entries.isEmpty then h.get? baggageHeader
      else some (String.ofList (BaggageHeader.write c.baggage)) := by
  have hspan : (injectSpan c h).get? baggageHeader = h.get? baggageHeader := by
    unfold injectSpan
    by_cases hv : c.spanContext.valid = true
    · simp only [if_pos hv]
      rw [Headers.get?_set_of_ne read?_traceStateHeader read?_baggageHeader (by decide),
        Headers.get?_set_of_ne read?_traceParentHeader read?_baggageHeader (by decide)]
    · simp only [if_neg hv]
  rw [inject, injectBaggage]
  by_cases he : c.baggage.entries.isEmpty = true
  · rw [if_pos he, if_pos he, hspan]
  · rw [if_neg he, if_neg he]
    exact Headers.get?_set_self read?_baggageHeader (by rwa [String.toList_ofList])

end TracedService.Hop
