import TracedService.Proofs.Propagation.Hop

/-! What headers say of a context. The span comes from two of them and the baggage from a third, of
each the first value; whatever else headers hold, and whatever becomes of the other part, makes no
difference. -/

namespace TracedService

theorem Context.eq_of_parts {c d : Context} (hactive : c.active = d.active)
    (hbaggage : c.baggage = d.baggage) : c = d := by
  cases c
  cases d
  cases hactive
  cases hbaggage
  rfl

namespace Hop

open Http (Headers)
open Text.Utf8 (Bytes)

variable {current : Context} {h h' : Headers}

/-- The span that the first values name; none if there is no `traceparent`, or a bad one. -/
def named? (parent state : Option String) : Option SpanContext :=
  (parent.bind fun t => TraceParent.read? t.toList).map fun s =>
    { s with traceState := (state.bind fun t => TraceState.read? t.toList).getD {} }

theorem spanContext?_eq (h : Headers) :
    spanContext? h = named? (h.first? traceParentHeader) (h.first? traceStateHeader) := by
  have hempty : TraceParent.read? "".toList = none := rfl
  rw [spanContext?, Headers.get?_eq_first? read?_traceParentHeader,
    Headers.get?_eq_first? read?_traceStateHeader, named?]
  cases h.first? traceParentHeader with
  | none => rw [Option.getD_none, hempty]; rfl
  | some t =>
    rw [Option.getD_some, Option.bind_some]
    cases TraceParent.read? t.toList <;> rfl

theorem extract_active_eq : (extract current h).active =
    match named? (h.first? traceParentHeader) (h.first? traceStateHeader) with
    | some s => some ⟨s, none⟩
    | none => current.active := by
  have hspan := extract_active (c := current) (h := h)
  rw [spanContext?_eq] at hspan
  exact hspan

theorem extract_baggage_eq : (extract current h).baggage =
    match h.first? baggageHeader with
    | some t => current.baggage.insertAll (BaggageHeader.read t.toList)
    | none => current.baggage := by
  rw [extract, extractBaggage, Headers.get?_eq_first? read?_baggageHeader]
  cases h.first? baggageHeader with
  | none => exact extractSpan_baggage
  | some t =>
    change (extractSpan current h).baggage.insertAll _ = current.baggage.insertAll _
    rw [extractSpan_baggage]

theorem extract_active_congr (hparent : h.first? traceParentHeader = h'.first? traceParentHeader)
    (hstate : h.first? traceStateHeader = h'.first? traceStateHeader) :
    (extract current h).active = (extract current h').active := by
  rw [extract_active_eq, extract_active_eq, hparent, hstate]

theorem extract_baggage_congr (hbaggage : h.first? baggageHeader = h'.first? baggageHeader) :
    (extract current h).baggage = (extract current h').baggage := by
  rw [extract_baggage_eq, extract_baggage_eq, hbaggage]

/-- What is added under another name, or behind a value of the same name, is not looked at. -/
theorem extract_append {name : String} (v : Bytes) (hname : name ∉ fields ∨ h.values name ≠ []) :
    extract current (h.append name v) = extract current h := by
  have hfirst (known : String) (hknown : known ∈ fields) :
      (h.append name v).first? known = h.first? known := by
    apply Headers.first?_append
    by_cases heq : name = known
    · rw [heq] at hname ⊢
      exact .inr (hname.resolve_left fun hnot => hnot hknown)
    · exact .inl heq
  apply Context.eq_of_parts
  · exact extract_active_congr (hfirst _ (by simp [fields])) (hfirst _ (by simp [fields]))
  · exact extract_baggage_congr (hfirst _ (by simp [fields]))

/-- The span of a context is the one that the first values of two headers name, and its baggage
comes from the first value of a third, laid over what was there; each part stays as it was where
there is nothing to take. So headers that begin alike under the names of one part lead to the same
part, and further values, other names and the headers of the other part make no difference. -/
theorem extract_separates (current : Context) (h : Headers) :
    (extract current h).active =
        (match named? (h.first? "traceparent") (h.first? "tracestate") with
          | some s => some ⟨s, none⟩
          | none => current.active) ∧
      (extract current h).baggage =
        (match h.first? "baggage" with
          | some t => current.baggage.insertAll (BaggageHeader.read t.toList)
          | none => current.baggage) ∧
      (∀ h', h'.first? "traceparent" = h.first? "traceparent" →
        h'.first? "tracestate" = h.first? "tracestate" →
          (extract current h').active = (extract current h).active) ∧
      (∀ h', h'.first? "baggage" = h.first? "baggage" →
        (extract current h').baggage = (extract current h).baggage) ∧
      (∀ name v, name ∉ ["traceparent", "tracestate", "baggage"] ∨ h.values name ≠ [] →
        extract current (h.append name v) = extract current h) ∧
      (∀ v, (extract current (h.replace "traceparent" v)).baggage = (extract current h).baggage) ∧
      ∀ v, (extract current (h.replace "baggage" v)).active = (extract current h).active := by
  refine ⟨extract_active_eq, extract_baggage_eq, fun h' => extract_active_congr,
    fun h' => extract_baggage_congr, fun name v => extract_append v, fun v => ?_, fun v => ?_⟩
  · exact extract_baggage_congr (Headers.first?_replace_of_ne v (by decide))
  · exact extract_active_congr (Headers.first?_replace_of_ne v (by decide))
      (Headers.first?_replace_of_ne v (by decide))

def calling : Headers :=
  ⟨[("traceparent", Text.Utf8.encodeText "00-0af7651916cd43dd8448eb211c80319c-b7ad6b7169203331-01"),
    ("baggage", Text.Utf8.encodeText "tenant=acme")]⟩

/-- The same span among other headers, a second `traceparent` and baggage that is no text. -/
def cluttered : Headers :=
  ⟨[("x-request-id", Text.Utf8.encodeText "7"), ("baggage", [0xFF]),
    ("traceparent", Text.Utf8.encodeText "00-0af7651916cd43dd8448eb211c80319c-b7ad6b7169203331-01"),
    ("baggage", Text.Utf8.encodeText "user=ann"),
    ("traceparent", Text.Utf8.encodeText "00-invalid-01")]⟩

/-- The span is the same, no baggage comes along, and more baggage behind the first is not read. -/
theorem extract_separates_cluttered :
    (extract {} calling).active =
        some ⟨⟨0x0af7651916cd43dd8448eb211c80319c, 0xb7ad6b7169203331, true, true, {}⟩, none⟩ ∧
      (extract {} cluttered).active = (extract {} calling).active ∧
      (extract {} cluttered).baggage = (extract {} {}).baggage ∧
      extract {} (calling.append "baggage" (Text.Utf8.encodeText "user=ann")) =
        extract {} calling := by
  obtain ⟨-, -, hspan, -, hmore, -⟩ := extract_separates {} calling
  obtain ⟨-, -, -, hbaggage, -⟩ := extract_separates {} {}
  refine ⟨by decide +kernel, ?_, ?_, ?_⟩
  · exact hspan cluttered (by decide +kernel) (by decide +kernel)
  · exact hbaggage cluttered (by decide +kernel)
  · exact hmore "baggage" _ (.inr (by decide +kernel))

end Hop

end TracedService
