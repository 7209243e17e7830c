import TracedService.Proofs.Propagation.Baggage
import TracedService.Proofs.Propagation.Hop

/-! What becomes of baggage that is sent on. Keys and values are written in codes, but properties as
they stand, though codes in them were read as well: what a property holds decides whether the whole
header is written at all, whether anybody can read it, and into how many members it comes apart. -/

namespace TracedService.Hop

open Http (Headers)
open BaggageHeader (Passable writeEntry)

variable {c : Context} {h : Headers}

theorem values_injectSpan : (injectSpan c h).values baggageHeader = h.values baggageHeader := by
  unfold injectSpan
  by_cases hv : c.spanContext.valid = true
  · simp only [if_pos hv]
    rw [Headers.values_set_of_ne read?_traceStateHeader (by decide),
      Headers.values_set_of_ne read?_traceParentHeader (by decide)]
  · simp only [if_neg hv]

/-- Baggage takes the place of all that was there, or leaves it if it can stand in no header. -/
theorem values_inject_baggage (hne : c.baggage.entries ≠ []) :
    (inject c h).values baggageHeader =
      if Http.HeaderValue.isValid (Text.Utf8.encode (BaggageHeader.write c.baggage)) then
        [Text.Utf8.encode (BaggageHeader.write c.baggage)]
      else h.values baggageHeader := by
  rw [inject, injectBaggage, if_neg (by simpa using hne),
    Headers.values_set_self read?_baggageHeader, values_injectSpan, Text.Utf8.encodeText,
    String.toList_ofList]

/-- The headers hold one value for baggage, which can be read, and it comes apart into the members
of the entries. -/
def Carries (h : Headers) (b : Baggage) : Prop :=
  ∃ text : String, h.values baggageHeader = [Text.Utf8.encodeText text] ∧
    h.get? baggageHeader = some text ∧
    Text.splitOn ',' text.toList = b.entries.map writeEntry

theorem carries_inject (hne : c.baggage.entries ≠ [])
    (hpass : ∀ e ∈ c.baggage.entries, Passable e) : Carries (inject c h) c.baggage := by
  have htext := BaggageHeader.write_isText hpass
  have hvalid : Http.HeaderValue.isValid
      (Text.Utf8.encode (BaggageHeader.write c.baggage)) = true :=
    Http.HeaderValue.isValid_of_all_isTextByte (Http.HeaderValue.encode_isText htext)
  refine ⟨String.ofList (BaggageHeader.write c.baggage), ?_, ?_, ?_⟩
  · rw [values_inject_baggage hne, if_pos hvalid, Text.Utf8.encodeText, String.toList_ofList]
  · rw [get?_inject_baggage htext, if_neg (by simpa using hne)]
  · rw [String.toList_ofList, BaggageHeader.splitOn_write hpass hne]

theorem Carries.passable {b : Baggage} (hb : Carries h b) : ∀ e ∈ b.entries, Passable e := by
  obtain ⟨text, -, hread, hmembers⟩ := hb
  obtain ⟨_, _, -, -, htext⟩ := Headers.of_get? hread
  intro e he d hd
  have hmember : writeEntry e ∈ Text.splitOn ',' text.toList :=
    hmembers ▸ List.mem_map_of_mem he
  have hchar : d ∈ writeEntry e := BaggageHeader.mem_writeEntry hd
  refine ⟨(htext d (Text.mem_of_mem_splitOn hmember hchar)).1, ?_⟩
  rintro rfl
  exact Text.not_mem_of_mem_splitOn hmember hchar

/-- Extracted baggage gets through to whoever is called next, in whatever order its entries are
sent, exactly if no property of an entry holds a comma, a control character or one past ASCII. Then
nothing of what the outgoing headers held before is left. -/
theorem inject_carries_iff {current : Context} {incoming outgoing : Headers} {sent : Baggage}
    (hsome : (extract current incoming).baggage.entries ≠ [])
    (hsent : sent.entries.Perm (extract current incoming).baggage.entries) :
    Carries (inject { extract current incoming with baggage := sent } outgoing) sent ↔
      ∀ e ∈ (extract current incoming).baggage.entries,
        ∀ d ∈ Text.trim e.properties, Http.isTextChar d = true ∧ d ≠ ',' := by
  have hne : sent.entries ≠ [] := by
    intro hnil
    rw [hnil] at hsent
    exact hsome hsent.nil_eq.symm
  constructor
  · intro hcarries e he
    exact hcarries.passable e (hsent.mem_iff.mpr he)
  · intro hpass
    exact carries_inject hne fun e he => hpass e (hsent.mem_iff.mp he)

def carrying (text : String) : Headers :=
  ⟨[(baggageHeader, Text.Utf8.encodeText text)]⟩

/-- Blanks, a property and a percent sign in a value do no harm, in either order of the entries. -/
theorem inject_carries_swapped :
    ∃ sent : Baggage, sent.entries = [⟨"rate".toList, "100%".toList, []⟩,
        ⟨"tenant".toList, "acme co".toList, "tier=gold".toList⟩] ∧
      Carries (inject { extract {} (carrying "tenant=acme co;tier=gold,rate=100%25") with
        baggage := sent } (carrying "old=1")) sent := by
  refine ⟨Baggage.insertAll {} [⟨"rate".toList, "100%".toList, []⟩,
    ⟨"tenant".toList, "acme co".toList, "tier=gold".toList⟩], by decide +kernel, ?_⟩
  have hpass : ∀ e ∈ (extract {} (carrying
      "tenant=acme co;tier=gold,rate=100%25")).baggage.entries, Passable e := by decide +kernel
  exact (inject_carries_iff (by decide +kernel) (by decide +kernel)).mpr hpass

/-- A line end in a property keeps all entries back, and what was there before goes out instead. -/
theorem inject_keeps_stale :
    (extract {} (carrying "tenant=acme;note=a%0Ab,user=ann")).baggage.entries =
        [⟨"tenant".toList, "acme".toList, "note=a\nb".toList⟩, ⟨"user".toList, "ann".toList, []⟩] ∧
      (inject (extract {} (carrying "tenant=acme;note=a%0Ab,user=ann"))
        (carrying "old=1")).values baggageHeader = [Text.Utf8.encodeText "old=1"] ∧
      ¬ Carries (inject (extract {} (carrying "tenant=acme;note=a%0Ab,user=ann"))
        (carrying "old=1")) (extract {} (carrying "tenant=acme;note=a%0Ab,user=ann")).baggage := by
  refine ⟨by decide +kernel, by decide +kernel, fun hcarries => ?_⟩
  have hline := hcarries.passable ⟨"tenant".toList, "acme".toList, "note=a\nb".toList⟩
    (by decide +kernel) '\n' (by decide +kernel)
  exact absurd hline.1 (by decide)

end TracedService.Hop
