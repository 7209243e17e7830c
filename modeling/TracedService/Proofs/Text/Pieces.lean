import TracedService.Text.Blank
import TracedService.Text.Split

/-! Cutting is the inverse of joining where no piece holds the separator, and trimming changes a
text once at most. -/

namespace TracedService.Text

variable {sep c : Char} {s p : List Char} {ps : List (List Char)}

theorem joinWith_cons_cons (p q : List Char) (qs : List (List Char)) :
    joinWith sep (p :: q :: qs) = p ++ sep :: joinWith sep (q :: qs) := rfl

theorem splitOn_of_not_mem (h : sep ∉ s) : splitOn sep s = [s] := by
  induction s with
  | nil => rfl
  | cons c r ih =>
    rw [List.mem_cons, not_or] at h
    rw [splitOn, if_neg (Ne.symm h.1), ih h.2]

theorem splitOn_append_cons (h : sep ∉ p) (s : List Char) :
    splitOn sep (p ++ sep :: s) = p :: splitOn sep s := by
  induction p with
  | nil => simp [splitOn]
  | cons c r ih =>
    rw [List.mem_cons, not_or] at h
    rw [List.cons_append, splitOn, if_neg (Ne.symm h.1), ih h.2]

theorem splitOn_joinWith (hne : ps ≠ []) (h : ∀ p ∈ ps, sep ∉ p) :
    splitOn sep (joinWith sep ps) = ps := by
  induction ps with
  | nil => exact absurd rfl hne
  | cons p ps ih =>
    have hp := h p (by simp)
    cases ps with
    | nil => exact splitOn_of_not_mem hp
    | cons q qs =>
      rw [joinWith_cons_cons, splitOn_append_cons hp,
        ih (by simp) fun x hx => h x (List.mem_cons_of_mem _ hx)]

theorem splitTerminated_joinWith (hne : ps ≠ []) (h : ∀ p ∈ ps, sep ∉ p)
    (hlast : ps.getLast? ≠ some []) : splitTerminated sep (joinWith sep ps) = ps := by
  rw [splitTerminated, splitOn_joinWith hne h]
  exact if_neg hlast

theorem not_mem_of_mem_splitOn (h : p ∈ splitOn sep s) : sep ∉ p := by
  induction s generalizing p with
  | nil =>
    rw [List.mem_singleton.mp h]
    exact List.not_mem_nil
  | cons c r ih =>
    rw [splitOn] at h
    split at h
    · rcases List.mem_cons.mp h with rfl | h
      · exact List.not_mem_nil
      · exact ih h
    · rename_i hc
      split at h
      · rename_i hs
        exact absurd hs (splitOn_ne_nil sep r)
      · rename_i q qs hs
        rcases List.mem_cons.mp h with rfl | h
        · rw [List.mem_cons, not_or]
          exact ⟨Ne.symm hc, ih (hs ▸ List.mem_cons_self)⟩
        · exact ih (hs ▸ List.mem_cons_of_mem _ h)

theorem mem_joinWith (h : p ∈ ps) (hc : c ∈ p) : c ∈ joinWith sep ps := by
  induction ps with
  | nil => cases h
  | cons q qs ih =>
    cases qs with
    | nil =>
      rw [List.mem_singleton.mp h] at hc
      exact hc
    | cons q' qs =>
      rw [joinWith_cons_cons, List.mem_append, List.mem_cons]
      rcases List.mem_cons.mp h with rfl | h
      · exact .inl hc
      · exact .inr (.inr (ih h))

theorem of_mem_joinWith (h : c ∈ joinWith sep ps) : c = sep ∨ ∃ p ∈ ps, c ∈ p := by
  induction ps with
  | nil => cases h
  | cons q qs ih =>
    cases qs with
    | nil => exact .inr ⟨q, by simp, h⟩
    | cons q' qs =>
      rw [joinWith_cons_cons, List.mem_append, List.mem_cons] at h
      rcases h with h | rfl | h
      · exact .inr ⟨q, by simp, h⟩
      · exact .inl rfl
      · rcases ih h with rfl | ⟨p, hp, hc⟩
        · exact .inl rfl
        · exact .inr ⟨p, List.mem_cons_of_mem _ hp, hc⟩

theorem mem_of_mem_splitOn (h : p ∈ splitOn sep s) (hc : c ∈ p) : c ∈ s := by
  have hjoined : c ∈ joinWith sep (splitOn sep s) := mem_joinWith h hc
  rwa [joinWith_splitOn] at hjoined

theorem mem_of_mem_splitTerminated (h : p ∈ splitTerminated sep s) : p ∈ splitOn sep s := by
  rw [splitTerminated] at h
  split at h
  · exact (List.dropLast_sublist _).subset h
  · exact h

theorem cutFirst?_append_cons (h : sep ∉ p) (s : List Char) :
    cutFirst? sep (p ++ sep :: s) = some (p, s) := by
  induction p with
  | nil => simp [cutFirst?]
  | cons c r ih =>
    rw [List.mem_cons, not_or] at h
    rw [List.cons_append, cutFirst?, if_neg (Ne.symm h.1), ih h.2]
    rfl

/-- The text is put together from the parts, and the first holds no separator. -/
theorem of_cutFirst? {a b : List Char} (h : cutFirst? sep s = some (a, b)) :
    s = a ++ sep :: b ∧ sep ∉ a := by
  induction s generalizing a with
  | nil => cases h
  | cons c r ih =>
    rw [cutFirst?] at h
    split at h
    · rename_i hc
      cases h
      exact ⟨by rw [hc]; rfl, List.not_mem_nil⟩
    · rename_i hc
      obtain ⟨⟨a', b'⟩, hr, he⟩ := Option.map_eq_some_iff.mp h
      cases he
      obtain ⟨rfl, ha⟩ := ih hr
      exact ⟨rfl, by rw [List.mem_cons, not_or]; exact ⟨Ne.symm hc, ha⟩⟩

theorem cutLast?_eq_some_iff {a b : List Char} :
    cutLast? sep s = some (a, b) ↔ s = a ++ sep :: b ∧ sep ∉ b := by
  constructor
  · intro h
    obtain ⟨⟨a', b'⟩, hcut, he⟩ := Option.map_eq_some_iff.mp h
    cases he
    obtain ⟨hs, ha⟩ := of_cutFirst? hcut
    refine ⟨List.reverse_inj.mp ?_, by simpa using ha⟩
    simpa using hs
  · rintro ⟨rfl, hb⟩
    have hreverse : (a ++ sep :: b).reverse = b.reverse ++ sep :: a.reverse := by simp
    rw [cutLast?, hreverse, cutFirst?_append_cons (by simpa using hb)]
    simp

theorem lastPiece_eq_iff :
    lastPiece sep s = p ↔ sep ∉ p ∧ (s = p ∨ ∃ before, s = before ++ sep :: p) := by
  constructor
  · rintro rfl
    have hfree : sep ∉ s.reverse.takeWhile (· != sep) := fun h => by
      simpa using List.all_eq_true.mp List.all_takeWhile sep h
    refine ⟨by simpa [lastPiece] using hfree, ?_⟩
    have hs : s = (s.reverse.dropWhile (· != sep)).reverse ++ lastPiece sep s := by
      rw [lastPiece, ← List.reverse_append, List.takeWhile_append_dropWhile, List.reverse_reverse]
    have hhead := List.head?_dropWhile_not (· != sep) s.reverse
    cases hrest : s.reverse.dropWhile (· != sep) with
    | nil =>
      rw [hrest] at hs
      exact .inl hs
    | cons c r =>
      rw [hrest] at hhead hs
      have hc : c = sep := by simpa using hhead
      exact .inr ⟨r.reverse, by simpa [hc] using hs⟩
  · rintro ⟨hfree, hs⟩
    have hkept : ∀ c ∈ p.reverse, (c != sep) = true := fun c hc => by
      simpa using ne_of_mem_of_not_mem (List.mem_reverse.mp hc) hfree
    rcases hs with rfl | ⟨before, rfl⟩
    · have hall := @List.takeWhile_append_of_pos _ (· != sep) _ [] hkept
      rw [List.append_nil, List.takeWhile_nil, List.append_nil] at hall
      rw [lastPiece, hall, List.reverse_reverse]
    · have hreverse : (before ++ sep :: p).reverse = p.reverse ++ sep :: before.reverse := by simp
      rw [lastPiece, hreverse, List.takeWhile_append_of_pos hkept,
        List.takeWhile_cons_of_neg (by simp), List.append_nil, List.reverse_reverse]

theorem lastPiece_append_cons (p s : List Char) :
    lastPiece sep (p ++ sep :: s) = lastPiece sep s := by
  obtain ⟨hfree, hs⟩ := lastPiece_eq_iff.mp (rfl : lastPiece sep s = _)
  refine lastPiece_eq_iff.mpr ⟨hfree, .inr ?_⟩
  rcases hs with hs | ⟨before, hs⟩
  · exact ⟨p, by rw [← hs]⟩
  · exact ⟨p ++ sep :: before, by rw [List.append_assoc, List.cons_append, ← hs]⟩

theorem lastPiece_eq_nil_iff : lastPiece sep s = [] ↔ s = [] ∨ s.getLast? = some sep := by
  have hnil : s = [] ↔ s.reverse = [] := List.reverse_eq_nil_iff.symm
  rw [lastPiece, List.reverse_eq_nil_iff, hnil, List.getLast?_eq_head?_reverse]
  cases s.reverse with
  | nil => simp
  | cons c r => by_cases hc : c = sep <;> simp [hc]

/-- No blank stands at either end. -/
def Trimmed (s : List Char) : Prop :=
  (∀ c, s.head? = some c → isBlank c = false) ∧ ∀ c, s.getLast? = some c → isBlank c = false

theorem trimStart_of_head? (h : ∀ c, s.head? = some c → isBlank c = false) : trimStart s = s := by
  cases s with
  | nil => rfl
  | cons c r => simp [trimStart, h c rfl]

theorem trimEnd_of_getLast? (h : ∀ c, s.getLast? = some c → isBlank c = false) : trimEnd s = s := by
  have hr : trimStart s.reverse = s.reverse :=
    trimStart_of_head? fun c hc => h c (by rwa [List.head?_reverse] at hc)
  rw [trimStart] at hr
  rw [trimEnd, hr, List.reverse_reverse]

theorem Trimmed.trim (h : Trimmed s) : trim s = s := by
  rw [Text.trim, trimStart_of_head? h.1, trimEnd_of_getLast? h.2]

theorem trimStart_append_cons (hc : isBlank c = false) (p s : List Char) :
    trimStart (p ++ c :: s) = trimStart p ++ c :: s := by
  induction p with
  | nil => simp [trimStart, hc]
  | cons b r ih =>
    rw [trimStart] at ih
    by_cases hb : isBlank b = true
    · simp [trimStart, hb, ih]
    · simp [trimStart, hb]

/-- Behind a character that is no blank, trimmed text stays as it is. -/
theorem trim_append_cons (hc : isBlank c = false) (h : Trimmed s) (hne : s ≠ [])
    (p : List Char) : trim (p ++ c :: s) = trimStart p ++ c :: s := by
  rw [Text.trim, trimStart_append_cons hc]
  refine trimEnd_of_getLast? fun b hb => h.2 b ?_
  obtain ⟨last, hlast⟩ := Option.ne_none_iff_exists'.mp (mt List.getLast?_eq_none_iff.mp hne)
  simpa [List.getLast?_append, List.getLast?_cons, hlast] using hb

theorem trimStart_head? (h : (trimStart s).head? = some c) : isBlank c = false := by
  have := List.head?_dropWhile_not isBlank s
  rw [show s.dropWhile isBlank = trimStart s from rfl, h] at this
  simpa using this

theorem trimmed_trim (s : List Char) : Trimmed (trim s) := by
  have hlast (c : Char) (hc : (trim s).getLast? = some c) : isBlank c = false := by
    rw [Text.trim, trimEnd, List.getLast?_reverse] at hc
    exact trimStart_head? hc
  refine ⟨?_, hlast⟩
  intro c hc
  have hprefix : trim s <+: trimStart s := by
    rw [Text.trim, trimEnd]
    exact List.reverse_suffix.mp (by rw [List.reverse_reverse]; exact List.dropWhile_suffix _)
  obtain ⟨rest, hrest⟩ := hprefix
  apply trimStart_head? (s := s)
  rw [← hrest, List.head?_append, hc]
  rfl

@[simp] theorem trim_trim (s : List Char) : trim (trim s) = trim s :=
  (trimmed_trim s).trim

theorem mem_of_mem_trim (h : c ∈ trim s) : c ∈ s := by
  rw [trim, trimEnd, List.mem_reverse] at h
  have := List.mem_reverse.mp ((List.dropWhile_sublist _).subset h)
  exact (List.dropWhile_sublist _).subset this

theorem trimmed_of_no_blank (h : ∀ c ∈ s, isBlank c = false) : Trimmed s :=
  ⟨fun c hc => h c (List.mem_of_head? hc), fun c hc => h c (List.mem_of_getLast? hc)⟩

/-- Trimmed pieces give a trimmed text, as long as the separator is no blank. -/
theorem trimmed_joinWith (hsep : isBlank sep = false) (h : ∀ p ∈ ps, Trimmed p) :
    Trimmed (joinWith sep ps) := by
  induction ps with
  | nil => exact trimmed_of_no_blank nofun
  | cons p ps ih =>
    cases ps with
    | nil => exact h p (by simp)
    | cons q qs =>
      have hp := h p (by simp)
      have hrest := ih fun x hx => h x (List.mem_cons_of_mem _ hx)
      constructor
      · intro c hc
        rw [joinWith_cons_cons, List.head?_append] at hc
        cases hh : p.head? with
        | none =>
          rw [hh] at hc
          cases hc
          exact hsep
        | some d =>
          rw [hh] at hc
          cases hc
          exact hp.1 _ hh
      · intro c hc
        rw [joinWith_cons_cons, List.getLast?_append, List.getLast?_cons] at hc
        cases hl : (joinWith sep (q :: qs)).getLast? with
        | none =>
          rw [hl] at hc
          cases hc
          exact hsep
        | some d =>
          rw [hl] at hc
          cases hc
          exact hrest.2 _ hl

end TracedService.Text
