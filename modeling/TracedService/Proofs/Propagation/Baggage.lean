import TracedService.Proofs.Http.Headers
import TracedService.Proofs.Text.Pieces
import TracedService.Propagation.BaggageHeader

/-! Baggage members are read back as they were written, as long as no percent sign is about. -/

namespace TracedService.BaggageHeader

open Http (isTextChar)
open Text (Trimmed splitOn joinWith trim)

/-- A text of a header without percent signs. -/
def Clear (s : List Char) : Prop :=
  ∀ c ∈ s, isTextChar c = true ∧ c ≠ '%'

theorem Clear.decode? {s : List Char} (h : Clear s) : Text.Percent.decode? s = some s :=
  Text.Percent.decode?_of_isAscii (fun c hc => Http.isAscii_of_isTextChar (h c hc).1)
    fun hp => (h _ hp).2 rfl

theorem Clear.trim {s : List Char} (h : Clear s) : Clear (trim s) :=
  fun c hc => h c (Text.mem_of_mem_trim hc)

theorem Clear.piece {s p : List Char} {sep : Char} (h : Clear s) (hp : p ∈ splitOn sep s) :
    Clear p :=
  fun c hc => h c (Text.mem_of_mem_splitOn hp hc)

/-- Key and value are trimmed, and the properties come apart and together again. -/
structure Sendable (e : BaggageEntry) : Prop where
  key : Trimmed e.key ∧ Clear e.key
  value : Trimmed e.value ∧ Clear e.value
  clear : Clear e.properties ∧ ',' ∉ e.properties
  stable : properties (splitOn ';' e.properties) = e.properties

/-- The properties can be written as they stand, without a code for any of their characters. -/
def Passable (e : BaggageEntry) : Prop :=
  ∀ c ∈ trim e.properties, isTextChar c = true ∧ c ≠ ','

-- Only the characters that are there are looked at, not all characters.
instance (e : BaggageEntry) : Decidable (Passable e) :=
  List.decidableBAll _ (trim e.properties)

theorem Sendable.passable {e : BaggageEntry} (h : Sendable e) : Passable e := by
  intro c hc
  have hmem := Text.mem_of_mem_trim hc
  refine ⟨(h.clear.1 c hmem).1, ?_⟩
  rintro rfl
  exact h.clear.2 hmem

theorem properties_of_clear {ps : List (List Char)} (h : ∀ p ∈ ps, Clear p) :
    properties ps = joinWith ';' (ps.map trim) := by
  have hdecoded : ps.filterMap Text.Percent.decode? = ps := by
    induction ps with
    | nil => rfl
    | cons p ps ih =>
      rw [List.filterMap_cons, (h p List.mem_cons_self).decode?,
        ih fun q hq => h q (List.mem_cons_of_mem _ hq)]
  have htrimmed : Trimmed (joinWith ';' (ps.map trim)) := by
    apply Text.trimmed_joinWith (by decide)
    intro p hp
    obtain ⟨q, _, rfl⟩ := List.mem_map.mp hp
    exact Text.trimmed_trim q
  rw [properties, hdecoded, htrimmed.trim]

/-- What properties become is cut and put together to the same again. -/
theorem properties_stable {ps : List (List Char)} (h : ∀ p ∈ ps, Clear p)
    (hsep : ∀ p ∈ ps, ';' ∉ p) : properties (splitOn ';' (properties ps)) = properties ps := by
  have hps := properties_of_clear h
  cases ps with
  | nil =>
    have hempty : ∀ p ∈ [[]], Clear p := by simp [Clear]
    exact properties_of_clear hempty
  | cons p ps =>
    have hclear : ∀ q ∈ (p :: ps).map trim, Clear q := by
      intro q hq
      obtain ⟨q', hq', rfl⟩ := List.mem_map.mp hq
      exact (h q' hq').trim
    have hcut : ∀ q ∈ (p :: ps).map trim, ';' ∉ q := by
      intro q hq hc
      obtain ⟨q', hq', rfl⟩ := List.mem_map.mp hq
      exact hsep q' hq' (Text.mem_of_mem_trim hc)
    have htwice : ((p :: ps).map trim).map trim = (p :: ps).map trim := by
      rw [List.map_map]
      exact List.map_congr_left fun q _ => Text.trim_trim q
    rw [hps, Text.splitOn_joinWith (by simp) hcut, properties_of_clear hclear, htwice]

/-- What is read from a clear member can be sent on. -/
theorem sendable_of_member? {s : List Char} {e : BaggageEntry} (hs : Clear s) (hcomma : ',' ∉ s)
    (h : member? s = some e) : Sendable e := by
  rw [member?] at h
  split at h
  · cases h
  · rename_i pair props hsplit
    have hpieces {p : List Char} (hp : p ∈ pair :: props) : p ∈ splitOn ';' s := hsplit ▸ hp
    have hprops : ∀ p ∈ props, Clear p := fun p hp => hs.piece (hpieces (List.mem_cons_of_mem _ hp))
    split at h
    · rename_i name value rest hpair
      have hname : Clear name :=
        (hs.piece (hpieces List.mem_cons_self)).piece (hpair ▸ List.mem_cons_self)
      have hvalue : Clear value :=
        (hs.piece (hpieces List.mem_cons_self)).piece
          (hpair ▸ List.mem_cons_of_mem _ List.mem_cons_self)
      rw [hname.decode?, hvalue.decode?] at h
      cases h
      have heq := properties_of_clear hprops
      have hmem : ∀ c ∈ properties props, c = ';' ∨ c ∈ s := by
        intro c hc
        rw [heq] at hc
        rcases Text.of_mem_joinWith hc with rfl | ⟨q, hq, hc⟩
        · exact .inl rfl
        · obtain ⟨p, hp, rfl⟩ := List.mem_map.mp hq
          exact .inr (Text.mem_of_mem_splitOn (hpieces (List.mem_cons_of_mem _ hp))
            (Text.mem_of_mem_trim hc))
      refine ⟨⟨Text.trimmed_trim _, hname.trim⟩, ⟨Text.trimmed_trim _, hvalue.trim⟩, ⟨?_, ?_⟩, ?_⟩
      · intro c hc
        rcases hmem c hc with rfl | hc
        · decide
        · exact hs c hc
      · intro hc
        rcases hmem _ hc with hc | hc
        · exact absurd hc (by decide)
        · exact hcomma hc
      · exact properties_stable hprops fun p hp =>
          Text.not_mem_of_mem_splitOn (hpieces (List.mem_cons_of_mem _ hp))
    · cases h

theorem not_mem_encode {sep : Char} (hplain : isPlain sep = false) (hsign : sep ≠ '%')
    (hdigit : ∀ n < 16, Text.Percent.capitalDigit n ≠ sep) (s : List Char) :
    sep ∉ Text.Percent.encode isPlain s := by
  intro h
  refine Text.Percent.forall_mem_encode (P := (· ≠ sep)) ?_ (Ne.symm hsign) hdigit sep h rfl
  rintro c hc rfl
  rw [hplain] at hc
  cases hc

theorem encode_isText (s : List Char) :
    ∀ c ∈ Text.Percent.encode isPlain s, isTextChar c = true := by
  refine Text.Percent.forall_mem_encode ?_ (by decide) (by decide)
  intro c hc
  simp only [isPlain, Bool.and_eq_true, decide_eq_true_eq] at hc
  rw [Http.isTextChar_iff]
  omega

theorem writeEntry_eq {e : BaggageEntry} (h : Sendable e) :
    writeEntry e = (Text.Percent.encode isPlain e.key ++
      '=' :: Text.Percent.encode isPlain e.value) ++
        if e.properties.isEmpty then [] else ';' :: e.properties := by
  have hprops : trim e.properties = e.properties := by
    rw [← h.stable, properties, Text.trim_trim]
  simp [writeEntry, h.key.1.trim, h.value.1.trim, hprops]

theorem member?_writeEntry {e : BaggageEntry} (h : Sendable e) :
    member? (writeEntry e) = some e := by
  have hpair : ';' ∉ Text.Percent.encode isPlain e.key ++
      '=' :: Text.Percent.encode isPlain e.value := by
    rw [List.mem_append, List.mem_cons, not_or, not_or]
    exact ⟨not_mem_encode (by decide) (by decide) (by decide) _, by decide,
      not_mem_encode (by decide) (by decide) (by decide) _⟩
  have hcut : splitOn '=' (Text.Percent.encode isPlain e.key ++
      '=' :: Text.Percent.encode isPlain e.value) =
        [Text.Percent.encode isPlain e.key, Text.Percent.encode isPlain e.value] := by
    rw [Text.splitOn_append_cons (not_mem_encode (by decide) (by decide) (by decide) _),
      Text.splitOn_of_not_mem (not_mem_encode (by decide) (by decide) (by decide) _)]
  have hpieces : ∃ props, splitOn ';' (writeEntry e) = (Text.Percent.encode isPlain e.key ++
      '=' :: Text.Percent.encode isPlain e.value) :: props ∧ properties props = e.properties := by
    rw [writeEntry_eq h]
    cases hp : e.properties with
    | nil =>
      refine ⟨[], ?_, rfl⟩
      rw [List.isEmpty_nil, if_pos rfl, List.append_nil, Text.splitOn_of_not_mem hpair]
    | cons c r =>
      refine ⟨splitOn ';' (c :: r), ?_, hp ▸ h.stable⟩
      rw [List.isEmpty_cons, if_neg nofun, Text.splitOn_append_cons hpair]
  obtain ⟨props, hsplit, hprops⟩ := hpieces
  have hkey : Text.Percent.decode? (Text.Percent.encode isPlain e.key) = some e.key :=
    Text.Percent.decode?_encode _ (fun c hc => Http.isAscii_of_isTextChar (h.key.2 c hc).1)
      fun hp => (h.key.2 _ hp).2 rfl
  have hvalue : Text.Percent.decode? (Text.Percent.encode isPlain e.value) = some e.value :=
    Text.Percent.decode?_encode _ (fun c hc => Http.isAscii_of_isTextChar (h.value.2 c hc).1)
      fun hp => (h.value.2 _ hp).2 rfl
  rw [member?, hsplit]
  simp only [hcut, hkey, hvalue, bind, Option.bind, hprops, h.key.1.trim, h.value.1.trim]

/-- A member is made of codes, of its own separators and of the properties as they stand. -/
theorem of_mem_writeEntry {e : BaggageEntry} {c : Char} (h : c ∈ writeEntry e) :
    (∃ s, c ∈ Text.Percent.encode isPlain s) ∨ c = '=' ∨ c = ';' ∨ c ∈ trim e.properties := by
  unfold writeEntry at h
  simp only [List.mem_append, List.mem_cons] at h
  rcases h with (h | h | h) | h
  · exact .inl ⟨_, h⟩
  · exact .inr (.inl h)
  · exact .inl ⟨_, h⟩
  · split at h
    · cases h
    · exact .inr (.inr (List.mem_cons.mp h))

theorem mem_writeEntry {e : BaggageEntry} {c : Char} (h : c ∈ trim e.properties) :
    c ∈ writeEntry e := by
  have hsome : (trim e.properties).isEmpty = false :=
    List.isEmpty_eq_false_iff.mpr (List.ne_nil_of_mem h)
  simp [writeEntry, hsome, h]

theorem not_mem_writeEntry {e : BaggageEntry} (h : Passable e) : ',' ∉ writeEntry e := by
  intro hc
  rcases of_mem_writeEntry hc with ⟨s, hc⟩ | hc | hc | hc
  · exact not_mem_encode (by decide) (by decide) (by decide) _ hc
  · exact absurd hc (by decide)
  · exact absurd hc (by decide)
  · exact (h _ hc).2 rfl

theorem writeEntry_isText {e : BaggageEntry} (h : Passable e) :
    ∀ c ∈ writeEntry e, isTextChar c = true := by
  intro c hc
  rcases of_mem_writeEntry hc with ⟨s, hc⟩ | rfl | rfl | hc
  · exact encode_isText s c hc
  · decide
  · decide
  · exact (h c hc).1

theorem sendable_of_mem_read {s : List Char} (hs : Clear s) {e : BaggageEntry} (h : e ∈ read s) :
    Sendable e := by
  obtain ⟨m, hm, he⟩ := List.mem_filterMap.mp h
  exact sendable_of_member? (hs.piece hm) (Text.not_mem_of_mem_splitOn hm) he

theorem splitOn_write {b : Baggage} (h : ∀ e ∈ b.entries, Passable e) (hne : b.entries ≠ []) :
    splitOn ',' (write b) = b.entries.map writeEntry := by
  refine Text.splitOn_joinWith (by simpa using hne) fun p hp => ?_
  obtain ⟨e, he, rfl⟩ := List.mem_map.mp hp
  exact not_mem_writeEntry (h e he)

theorem read_write {b : Baggage} (h : ∀ e ∈ b.entries, Sendable e) (hne : b.entries ≠ []) :
    read (write b) = b.entries := by
  have hback (es : List BaggageEntry) (hes : ∀ e ∈ es, Sendable e) :
      (es.map writeEntry).filterMap member? = es := by
    induction es with
    | nil => rfl
    | cons e es ih =>
      rw [List.map_cons, List.filterMap_cons, member?_writeEntry (hes e List.mem_cons_self),
        ih fun x hx => hes x (List.mem_cons_of_mem _ hx)]
  rw [read, splitOn_write (fun e he => (h e he).passable) hne, hback _ h]

theorem write_isText {b : Baggage} (h : ∀ e ∈ b.entries, Passable e) :
    ∀ c ∈ write b, isTextChar c = true := by
  intro c hc
  rcases Text.of_mem_joinWith hc with rfl | ⟨p, hp, hc⟩
  · decide
  · obtain ⟨e, he, rfl⟩ := List.mem_map.mp hp
    exact writeEntry_isText (h e he) c hc

end TracedService.BaggageHeader
