import TracedService.Proofs.Trace.Recorder

/-! Attributes that are added in turn, to a span as long as it has room, and in a recorder to the
span that is active in a context. -/

namespace TracedService

namespace Span

def addAttributes (as : List SpanAttribute) (s : Span) : Span :=
  as.foldl (fun s a => s.addAttribute a) s

variable (as bs : List SpanAttribute) (s : Span)

theorem addAttributes_append :
    s.addAttributes (as ++ bs) = (s.addAttributes as).addAttributes bs :=
  List.foldl_append

theorem head_addAttributes : (s.addAttributes as).head = s.head := by
  induction as generalizing s with
  | nil => rfl
  | cons a as ih => exact (ih (s.addAttribute a)).trans (head_addAttribute a s)

/-- As many of them as there is room for stand behind those that were there. -/
theorem attributes_addAttributes : (s.addAttributes as).attributes =
    s.attributes ++ as.take (maxAttributes - s.attributes.length) := by
  induction as generalizing s with
  | nil => simp [addAttributes]
  | cons a as ih =>
    rw [show s.addAttributes (a :: as) = (s.addAttribute a).addAttributes as from rfl, ih]
    by_cases hroom : s.attributes.length < maxAttributes
    · have hleft : maxAttributes - s.attributes.length =
          maxAttributes - (s.attributes.length + 1) + 1 := by omega
      rw [hleft, addAttribute, if_pos hroom]
      simp
    · have hfull : maxAttributes - s.attributes.length = 0 := by omega
      rw [addAttribute, if_neg hroom, hfull, List.take_zero, List.take_zero]

theorem attributes_addAttributes_of_le (h : s.attributes.length ≤ maxAttributes) :
    (s.addAttributes as).attributes = (s.attributes ++ as).take maxAttributes := by
  rw [attributes_addAttributes, List.take_append, List.take_of_length_le h]

end Span

namespace Recorder

/-- Adds to the span that is active in a context, if the span's own context is valid. -/
def addTo (r : Recorder) (c : Context) (as : List SpanAttribute) : Recorder :=
  match c.active with
  | some a => if a.context.valid then r.update a (Span.addAttributes as) else r
  | none => r

variable {r : Recorder} {c : Context} {a : ActiveSpan} {s : Span} {rest : List (Nat × Span)}
  {as bs : List SpanAttribute}

theorem addTo_cases (r : Recorder) (c : Context) (as : List SpanAttribute) :
    (∃ a, r.addTo c as = r.update a (Span.addAttributes as)) ∨ r.addTo c as = r := by
  unfold addTo
  split
  · rename_i a _
    split
    · exact .inl ⟨a, rfl⟩
    · exact .inr rfl
  · exact .inr rfl

theorem addTo_frame (r : Recorder) (c : Context) (as : List SpanAttribute) :
    (r.addTo c as).ended = r.ended ∧ (r.addTo c as).traces = r.traces ∧
      (r.addTo c as).spans = r.spans := by
  rcases addTo_cases r c as with ⟨a, h⟩ | h
  · rw [h]
    exact ⟨rfl, rfl, rfl⟩
  · rw [h]
    exact ⟨rfl, rfl, rfl⟩

theorem addTo_nil : (r.addTo c []).running = r.running := by
  rcases addTo_cases r c [] with ⟨a, h⟩ | h
  · rw [h]
    refine .trans (List.map_congr_left fun e _ => ?_) (List.map_id _)
    split <;> rfl
  · rw [h]

theorem update_update (f g : Span → Span) :
    ((r.update a f).update a g).running = (r.update a fun s => g (f s)).running := by
  simp only [update, List.map_map]
  refine List.map_congr_left fun e _ => ?_
  by_cases hn : a.recorder = some e.1
  · simp only [Function.comp, if_pos hn]
  · simp only [Function.comp, if_neg hn]

theorem addTo_addTo : ((r.addTo c as).addTo c bs).running = (r.addTo c (as ++ bs)).running := by
  unfold addTo
  cases c.active with
  | none => rfl
  | some a =>
    by_cases hv : a.context.valid = true
    · simp only [if_pos hv, update_update, ← Span.addAttributes_append]
    · simp only [if_neg hv]

theorem Leads.addTo (h : r.Leads a s rest) (hc : c.active = some a) (as : List SpanAttribute) :
    (r.addTo c as).Leads a (s.addAttributes (if a.context.valid then as else [])) rest := by
  unfold Recorder.addTo
  rw [hc]
  by_cases hvalid : a.context.valid = true
  · simp only [if_pos hvalid]
    exact h.update (Span.addAttributes as)
  · simp only [if_neg hvalid]
    exact h

end Recorder

end TracedService
