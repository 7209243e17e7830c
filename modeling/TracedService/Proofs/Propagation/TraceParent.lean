import TracedService.Proofs.Http.Headers
import TracedService.Proofs.Text.Pieces
import TracedService.Propagation.TraceParent

/-! What names a span in headers is read back: ids and sampled flag, and the vendor list. -/

namespace TracedService

open Http (isTextChar)

namespace TraceParent

open Text (Hex.padded Hex.digit)

/-- The parts between the dashes. -/
def parts (c : SpanContext) : List (List Char) :=
  [Hex.padded 2 0, Hex.padded 32 c.traceId.toNat, Hex.padded 16 c.spanId.toNat,
    Hex.padded 2 (if c.sampled then 1 else 0)]

theorem forall_mem_parts {P : Char → Prop} (h : ∀ n < 16, P (Hex.digit n)) (c : SpanContext) :
    ∀ p ∈ parts c, ∀ d ∈ p, P d := by
  intro p hp
  have hpadded : ∃ width n, p = Hex.padded width n := by
    simp only [parts, List.mem_cons, List.not_mem_nil, or_false] at hp
    rcases hp with hp | hp | hp | hp
    all_goals exact ⟨_, _, hp⟩
  obtain ⟨width, n, hp⟩ := hpadded
  rw [hp]
  exact Text.Hex.forall_mem_padded h width n

theorem forall_mem_write {P : Char → Prop} (h : ∀ n < 16, P (Hex.digit n)) (hdash : P '-')
    (c : SpanContext) : ∀ d ∈ write c, P d := by
  intro d hd
  rcases Text.of_mem_joinWith hd with rfl | ⟨p, hp, hd⟩
  · exact hdash
  · exact forall_mem_parts h c p hp d hd

theorem write_isText (c : SpanContext) : ∀ d ∈ write c, isTextChar d = true :=
  forall_mem_write (by decide) (by decide) c

theorem splitTerminated_write (c : SpanContext) :
    Text.splitTerminated '-' (Text.trim (write c)) = parts c := by
  have htrim : Text.trim (write c) = write c :=
    (Text.trimmed_of_no_blank (forall_mem_write (by decide) (by decide) c)).trim
  have hdash : ∀ p ∈ parts c, '-' ∉ p := by
    intro p hp hd
    exact forall_mem_parts (P := (· ≠ '-')) (by decide) c p hp '-' hd rfl
  rw [htrim]
  apply Text.splitTerminated_joinWith (List.cons_ne_nil _ _) hdash
  cases c.sampled <;> simp [Hex.padded]

theorem id?_padded {width : Nat} (digits : Nat) (hpos : 0 < digits)
    (hw : Nat.pow 2 width = Nat.pow 16 digits) (id : BitVec width) :
    id? width (Hex.padded digits id.toNat) = some id := by
  have hcapital : (Hex.padded digits id.toNat).any Text.isCapital = false := by
    rw [List.any_eq_false]
    exact Text.Hex.forall_mem_padded (by decide) _ _
  have hlt : id.toNat < Nat.pow 2 width := id.isLt
  rw [id?, hcapital, Text.Hex.read?_padded hpos (hw ▸ hlt) hlt]
  simp

/-- A valid span context is read back as one from outside; the vendor list travels by itself. -/
theorem read?_write {c : SpanContext} (h : c.valid = true) :
    read? (write c) = some ⟨c.traceId, c.spanId, c.sampled, true, {}⟩ := by
  have htrace := id?_padded 32 (by decide) (by decide) c.traceId
  have hspan := id?_padded 16 (by decide) (by decide) c.spanId
  have hversion : (Text.Hex.read? 256 (Hex.padded 2 0)).filter (· ≤ maxVersion) = some 0 := by
    decide
  have hvalid : SpanContext.valid ⟨c.traceId, c.spanId, c.sampled, true, {}⟩ = true := h
  have hflags : Text.Hex.read? 256 (Hex.padded 2 (if c.sampled then 1 else 0)) =
      some (if c.sampled then 1 else 0) := by
    cases c.sampled <;> decide
  have hsampled : decide ((if c.sampled then 1 else 0) % 2 = 1) = c.sampled := by
    cases c.sampled <;> rfl
  have hlow : ¬ 2 < (if c.sampled then 1 else 0) := by
    cases c.sampled <;> decide
  rw [read?, splitTerminated_write, parts]
  simp only [hversion, htrace, hspan, hflags, bind, Option.bind, hsampled]
  simp [hlow, hvalid]

theorem drop_write (c : SpanContext) :
    (write c).drop 53 = if c.sampled then ['0', '1'] else ['0', '0'] := by
  have hflags : Hex.padded 2 (if c.sampled then 1 else 0) =
      if c.sampled then ['0', '1'] else ['0', '0'] := by
    cases c.sampled <;> decide
  have hfront : write c = (Hex.padded 2 0 ++ '-' :: Hex.padded 32 c.traceId.toNat ++
      '-' :: Hex.padded 16 c.spanId.toNat ++ ['-']) ++
        if c.sampled then ['0', '1'] else ['0', '0'] := by
    rw [← hflags]
    simp [write, Text.joinWith]
  rw [hfront]
  apply List.drop_left'
  simp [Text.Hex.length_padded]

theorem of_read? {s : List Char} {c : SpanContext} (h : read? s = some c) :
    c.valid = true ∧ c.remote = true ∧ c.traceState = {} := by
  unfold read? at h
  dsimp only at h
  split at h
  · simp only [Option.bind_eq_bind, Option.bind_eq_some_iff] at h
    obtain ⟨version, _, traceId, _, spanId, _, flags, _, h⟩ := h
    split at h
    · cases h
    · split at h
      · rename_i hvalid
        cases h
        exact ⟨hvalid, rfl, rfl⟩
      · cases h
  · cases h

end TraceParent

namespace TraceState

/-- Key and value hold neither of the separators. -/
def Plain (e : List Char × List Char) : Prop :=
  (',' ∉ e.1 ∧ '=' ∉ e.1) ∧ ',' ∉ e.2 ∧ '=' ∉ e.2

def member (e : List Char × List Char) : List Char :=
  e.1 ++ '=' :: e.2

theorem header_eq (t : TraceState) : t.header = Text.joinWith ',' (t.entries.map member) := rfl

private theorem of_mem_mapM_some {α β : Type} {f : α → Option β} {xs : List α} {ys : List β}
    (h : xs.mapM f = some ys) : ∀ y ∈ ys, ∃ x ∈ xs, f x = some y := by
  induction xs generalizing ys with
  | nil =>
    cases h
    simp
  | cons x xs ih =>
    rw [List.mapM_cons] at h
    cases hx : f x with
    | none =>
      rw [hx] at h
      cases h
    | some y =>
      cases hxs : xs.mapM f with
      | none =>
        rw [hx, hxs] at h
        cases h
      | some ys' =>
        rw [hx, hxs] at h
        cases h
        intro z hz
        rcases List.mem_cons.mp hz with rfl | hz
        · exact ⟨x, by simp, hx⟩
        · obtain ⟨x', hx', he⟩ := ih hxs z hz
          exact ⟨x', by simp [hx'], he⟩

/-- A list that is read has valid keys and values, none of which holds a separator, and no
characters that are not in the text. -/
theorem of_read? {s : List Char} {t : TraceState} (h : read? s = some t) :
    (t.entries.all fun e => validKey e.1 && validValue e.2) = true ∧
      (∀ e ∈ t.entries, Plain e) ∧ ∀ e ∈ t.entries, ∀ c, c ∈ e.1 ∨ c ∈ e.2 → c ∈ s := by
  rw [read?] at h
  simp only [bind, Option.bind] at h
  split at h
  · cases h
  · rename_i entries hm
    dsimp only at h
    split at h
    · rename_i hvalid
      cases h
      refine ⟨hvalid, ?_, ?_⟩
      all_goals
        intro e he
        obtain ⟨p, hp, hmember⟩ := of_mem_mapM_some hm e he
        obtain ⟨⟨key, rest⟩, hcut, rfl⟩ := Option.map_eq_some_iff.mp hmember
        obtain ⟨hp', hkey⟩ := Text.of_cutFirst? hcut
        have hpiece := Text.mem_of_mem_splitTerminated hp
      · have hcomma : ',' ∉ p := Text.not_mem_of_mem_splitOn hpiece
        have hvalue := List.all_eq_true.mp hvalid _ he
        simp only [validValue, Bool.and_eq_true, List.all_eq_true] at hvalue
        refine ⟨⟨?_, hkey⟩, ?_, ?_⟩
        · intro hc
          exact hcomma (by rw [hp']; exact List.mem_append_left _ hc)
        · intro hc
          simpa using hvalue.2.2 _ hc
        · intro hc
          simpa using hvalue.2.2 _ hc
      · intro c hc
        apply Text.mem_of_mem_splitOn hpiece
        rw [hp', List.mem_append, List.mem_cons]
        rcases hc with hc | hc
        · exact .inl hc
        · exact .inr (.inr ((List.dropWhile_sublist _).subset hc))
    · cases h

theorem member?_member {e : List Char × List Char} (h : Plain e) : member? (member e) = some e := by
  have hvalue : e.2.dropWhile (· == '=') = e.2 := by
    cases hv : e.2 with
    | nil => rfl
    | cons c r =>
      have hc : c ≠ '=' := fun hc => h.2.2 (by rw [hv, hc]; exact List.mem_cons_self)
      rw [List.dropWhile_cons_of_neg (by simpa using hc)]
  rw [member?, member, Text.cutFirst?_append_cons h.1.2]
  exact congrArg (fun v => some (e.1, v)) hvalue

theorem splitTerminated_header {t : TraceState} (h : ∀ e ∈ t.entries, Plain e) :
    Text.splitTerminated ',' t.header = t.entries.map member := by
  cases he : t.entries with
  | nil => simp [header, he, Text.joinWith, Text.splitTerminated, Text.splitOn]
  | cons e es =>
    rw [header_eq, he]
    apply Text.splitTerminated_joinWith (by simp)
    · intro p hp hc
      obtain ⟨e', he', rfl⟩ := List.mem_map.mp hp
      have hplain := h e' (he ▸ he')
      rw [member, List.mem_append, List.mem_cons] at hc
      rcases hc with hc | hc | hc
      · exact hplain.1.1 hc
      · exact absurd hc (by decide)
      · exact hplain.2.1 hc
    · intro hlast
      obtain ⟨e', _, he'⟩ := List.mem_map.mp (List.mem_of_getLast? hlast)
      exact absurd he' (by simp [member])

/-- A vendor list that was read is read back. -/
theorem read?_header {s : List Char} {t : TraceState} (h : read? s = some t) :
    read? t.header = some t := by
  obtain ⟨hvalid, hplain, _⟩ := of_read? h
  have hback (es : List (List Char × List Char)) (hes : ∀ e ∈ es, Plain e) :
      (es.map member).mapM member? = some es := by
    induction es with
    | nil => rfl
    | cons e es ih =>
      rw [List.map_cons, List.mapM_cons, member?_member (hes e (by simp)),
        ih fun e' he' => hes e' (List.mem_cons_of_mem _ he')]
      rfl
  rw [read?, splitTerminated_header hplain, hback _ hplain]
  exact if_pos hvalid

theorem mem_of_mem_header {s : List Char} {t : TraceState} (h : read? s = some t) {c : Char}
    (hc : c ∈ t.header) : c = ',' ∨ c = '=' ∨ c ∈ s := by
  rw [header_eq] at hc
  rcases Text.of_mem_joinWith hc with rfl | ⟨p, hp, hc⟩
  · exact .inl rfl
  · obtain ⟨e, he, rfl⟩ := List.mem_map.mp hp
    have hs := (of_read? h).2.2 e he c
    rw [member, List.mem_append, List.mem_cons] at hc
    rcases hc with hc | rfl | hc
    · exact .inr (.inr (hs (.inl hc)))
    · exact .inr (.inl rfl)
    · exact .inr (.inr (hs (.inr hc)))

end TraceState

end TracedService
