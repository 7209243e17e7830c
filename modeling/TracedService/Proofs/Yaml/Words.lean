import TracedService.Proofs.Yaml.Sheet

/-! Words and values of a sheet under the lexer: a word before its colon is a plain scalar, and what
stands between double quotes is read as it is. -/

namespace TracedService.Yaml

theorem ne_of_class {f : Char → Bool} {c d : Char} (hc : f c = true) (hd : f d = false) :
    c ≠ d := by
  rintro rfl
  rw [hd] at hc
  cases hc

theorem isWordChar_iff {c : Char} :
    isWordChar c = true ↔ (97 ≤ c.toNat ∧ c.toNat ≤ 122) ∨ c = '_' := by
  simp only [isWordChar, Text.isSmall, Bool.or_eq_true, Bool.and_eq_true, decide_eq_true_eq,
    beq_iff_eq, Char.le_def, UInt32.le_iff_toNat_le]
  rfl

theorem isBreak_of_isWordChar {c : Char} (hc : isWordChar c = true) : isBreak c = false := by
  have hne (d : Char) (hd : isWordChar d = false) : c ≠ d := ne_of_class hc hd
  simp [isBreak, hne '\n' rfl, hne '\u2028' rfl, hne '\u2029' rfl]

theorem isWhite_of_isWordChar {c : Char} (hc : isWordChar c = true) : isWhite c = false := by
  have hne (d : Char) (hd : isWordChar d = false) : c ≠ d := ne_of_class hc hd
  simp [isWhite, isBlank, isBreak_of_isWordChar hc, hne ' ' rfl, hne '\t' rfl]

theorem isBreak_of_isVerbatim {c : Char} (hc : isVerbatim c = true) : isBreak c = false := by
  have hne (d : Char) (hd : isVerbatim d = false) : c ≠ d := ne_of_class hc hd
  simp [isBreak, hne '\n' rfl, hne '\u2028' rfl, hne '\u2029' rfl]

/-- The only white space among such characters is the blank. -/
theorem of_isVerbatim {c : Char} (hc : isVerbatim c = true) :
    isWhite c = decide (c = ' ') ∧ c ≠ '"' ∧ c ≠ '\\' := by
  have hne (d : Char) (hd : isVerbatim d = false) : c ≠ d := ne_of_class hc hd
  refine ⟨?_, hne _ rfl, hne _ rfl⟩
  rw [isWhite, isBreak_of_isVerbatim hc, isBlank, Bool.or_false]
  simp [hne '\t' rfl, Bool.beq_eq_decide_eq]

namespace Lexer

theorem fetch_word (l : Lexer) {c : Char} (r : List Char) (hc : isWordChar c = true) :
    l.fetch c r = l.plainScalar := by
  have hne (d : Char) (hd : isWordChar d = false) : c ≠ d := ne_of_class hc hd
  have hstart : startsPlain l.inFlow c r = true := by
    have hplain : "-?:,[]\x7b\x7d#&*!|>'\"%@\x60".toList.contains c = false := by
      rw [List.contains_eq_mem, decide_eq_false_iff_not]
      intro hmem
      have hall : ("-?:,[]\x7b\x7d#&*!|>'\"%@\x60".toList.all fun d => !isWordChar d) = true := by
        decide +kernel
      exact hne c (by simpa using List.all_eq_true.mp hall c hmem) rfl
    rw [startsPlain, isWhite_of_isWordChar hc, hplain]
    rfl
  have hindicator (word : List Char) (d : Char) (hd : isWordChar d = false) :
      isIndicator (d :: word) (c :: r) = false := by
    simp [isIndicator, Text.dropStart?, Ne.symm (hne d hd)]
  have hdashes : isIndicator ['-', '-', '-'] (c :: r) = false := hindicator _ '-' rfl
  have hdots : isIndicator ['.', '.', '.'] (c :: r) = false := hindicator _ '.' rfl
  simp [fetch, hdashes, hdots, hstart, hne '%' rfl, hne '[' rfl, hne '\x7b' rfl, hne ']' rfl,
    hne '\x7d' rfl, hne ',' rfl, hne '-' rfl, hne '?' rfl, hne ':' rfl, hne '*' rfl, hne '&' rfl,
    hne '!' rfl, hne '|' rfl, hne '>' rfl, hne '\'' rfl, hne '"' rfl]

theorem fetch_colon (l : Lexer) {r : List Char} (hr : endsWord r = true) :
    l.fetch ':' r = l.value := by
  simp [fetch, isIndicator, Text.dropStart?, hr]

theorem fetch_quote (l : Lexer) (r : List Char) : l.fetch '"' r = l.quotedScalar false := by
  simp [fetch, isIndicator, Text.dropStart?]

variable {allowed : Bool} {m : Mark} {s t w line : List Char}

theorem skipBlanks_break : skipBlanks false allowed false m ('\n' :: s) =
    skipBlanks false true false ⟨m.line + 1, 0⟩ s := by
  simp [skipBlanks, isBreak, Mark.advance]

theorem skipBlanks_comment (hs : ∀ c ∈ s, 32 ≤ c.toNat ∧ c.toNat < 127) :
    skipBlanks false allowed true m (s ++ '\n' :: t) =
      skipBlanks false true false ⟨m.line + 1, 0⟩ t := by
  induction s generalizing m with
  | nil => simp [skipBlanks, isBreak, Mark.advance]
  | cons c s ih =>
    have hc := hs c List.mem_cons_self
    have hbreak : isBreak c = false := by
      have hne (d : Char) (hd : ¬ (32 ≤ d.toNat ∧ d.toNat < 127)) : c ≠ d := fun h => hd (h ▸ hc)
      simp [isBreak, hne '\n' (by decide), hne '\u2028' (by decide), hne '\u2029' (by decide)]
    rw [List.cons_append, skipBlanks, hbreak]
    simp only [Bool.false_eq_true, if_false, if_true]
    rw [ih fun d hd => hs d (List.mem_cons_of_mem _ hd)]
    simp [Mark.advance, hbreak]

theorem skipBlanks_note (hline : IsNote line) :
    skipBlanks false true false m (line ++ '\n' :: t) =
      skipBlanks false true false ⟨m.line + 1, 0⟩ t := by
  rcases hline with rfl | ⟨s, rfl, hs⟩
  · exact skipBlanks_break
  · have hcomment : skipBlanks false true true (m.advance '#') (s ++ '\n' :: t) = _ :=
      skipBlanks_comment hs
    simpa [skipBlanks, isBreak, byteOrderMark, Mark.advance] using hcomment

theorem skipBlanks_notes {notes : List (List Char)} (hnotes : ∀ line ∈ notes, IsNote line) :
    ∃ n, skipBlanks false true false ⟨m.line, 0⟩ (Section.notesText notes ++ t) =
      skipBlanks false true false ⟨n, 0⟩ t := by
  induction notes generalizing m with
  | nil => exact ⟨m.line, rfl⟩
  | cons line notes ih =>
    obtain ⟨n, hn⟩ := ih (m := ⟨m.line + 1, 0⟩) fun l hl => hnotes l (List.mem_cons_of_mem _ hl)
    refine ⟨n, ?_⟩
    rw [← hn, Section.notesText, List.flatMap_cons, List.append_assoc, List.append_assoc,
      List.singleton_append, skipBlanks_note (hnotes line List.mem_cons_self)]
    rfl

theorem skipBlanks_word (allowed : Bool) (hw : IsWord w) :
    skipBlanks false allowed false m (w ++ t) = (allowed, ⟨m, w ++ t⟩) := by
  obtain ⟨c, w', rfl⟩ := List.exists_cons_of_ne_nil hw.nonempty
  have hc := hw.chars c List.mem_cons_self
  have hne (d : Char) (hd : isWordChar d = false) : c ≠ d := ne_of_class hc hd
  simp [skipBlanks, isBreak_of_isWordChar hc, hne ' ' rfl, hne '\t' rfl, hne '#' rfl,
    hne byteOrderMark rfl]

end Lexer

namespace Plain

theorem run_word {flow : Bool} {indent : Nat} {t w : List Char} {m : Mark} {r : List Char}
    (hw : ∀ c ∈ w, isWordChar c = true) (hr : endsWord r = true) (hflow : flow = false) :
    run flow indent ⟨t, none⟩ m (w ++ ':' :: r) =
      .ok (t.reverse ++ w, false, ⟨m.along w.length, ':' :: r⟩) := by
  subst hflow
  induction w generalizing t m with
  | nil => simp [run, step, isWhite, isBlank, isBreak, word, isStrayColon, ends, hr, Mark.along]
  | cons c w ih =>
    have hc : isWordChar c = true := hw c List.mem_cons_self
    have hstep : step false indent ⟨t, none⟩ m c (w ++ ':' :: r) = .ok (.next ⟨c :: t, none⟩) := by
      simp [step, isWhite_of_isWordChar hc, word, isStrayColon, ends,
        ne_of_class hc (show isWordChar ':' = false by rfl)]
    rw [List.cons_append, run, hstep]
    dsimp only
    rw [ih fun d hd => hw d (List.mem_cons_of_mem _ hd)]
    simp [Mark.along, Mark.advance, isBreak_of_isWordChar hc, Nat.add_assoc, Nat.add_comm 1]

end Plain

namespace Quoted

/-- What has been read so far, blanks included. -/
def State.shown (s : State) : List Char :=
  match s.mode with
  | .gap g => s.text.reverse ++ g.blanks.reverse
  | _ => s.text.reverse

/-- Among words or among the blanks of a line. -/
def State.InLine (s : State) : Prop :=
  s.mode = .words ∨ ∃ blanks, s.mode = .gap { blanks }

theorem word_verbatim {text r : List Char} {c : Char} (hc : isVerbatim c = true) :
    word false text c r =
      .next (if c = ' ' then ⟨.gap { blanks := [' '] }, text⟩ else ⟨.words, c :: text⟩) := by
  obtain ⟨hwhite, hquote, hback⟩ := of_isVerbatim hc
  by_cases hblank : c = ' '
  · subst hblank
    rfl
  · simp [word, hwhite, hblank, hquote, hback]

theorem step_verbatim {s : State} {m : Mark} {c : Char} (r : List Char) (hs : s.InLine)
    (hm : m.column ≠ 0) (hc : isVerbatim c = true) :
    ∃ s', step false s m c r = .ok (.next s') ∧ s'.InLine ∧ s'.shown = s.shown ++ [c] := by
  obtain ⟨mode, text⟩ := s
  rcases hs with rfl | ⟨blanks, rfl⟩
  · rw [step, word_verbatim hc]
    by_cases hblank : c = ' '
    · rw [if_pos hblank, hblank]
      exact ⟨_, rfl, .inr ⟨_, rfl⟩, rfl⟩
    · rw [if_neg hblank]
      exact ⟨_, rfl, .inl rfl, by simp [State.shown]⟩
  · by_cases hblank : c = ' '
    · subst hblank
      exact ⟨⟨.gap { blanks := ' ' :: blanks }, text⟩, rfl, .inr ⟨_, rfl⟩, by simp [State.shown]⟩
    · have hwhite : isWhite c = false := by
        rw [(of_isVerbatim hc).1, decide_eq_false hblank]
      have hstep : step false ⟨.gap { blanks }, text⟩ m c r =
          .ok (word false (blanks ++ text) c r) := by
        simp [step, hwhite, hm, Gap.text]
      rw [hstep, word_verbatim hc, if_neg hblank]
      exact ⟨_, rfl, .inl rfl, by simp [State.shown]⟩

theorem run_verbatim {s : State} {m : Mark} {v r : List Char} (hs : s.InLine)
    (hm : m.column ≠ 0) (hv : Verbatim v) :
    run false s m (v ++ '"' :: r) = .ok (s.shown ++ v, ⟨m.along (v.length + 1), r⟩) := by
  induction v generalizing s m with
  | nil =>
    obtain ⟨mode, text⟩ := s
    rcases hs with rfl | ⟨blanks, rfl⟩
    · simp [run, step, word, isWhite, isBlank, isBreak, State.shown, Mark.advance, Mark.along]
    · simp [run, step, word, isWhite, isBlank, isBreak, State.shown, Mark.advance, Mark.along, hm,
        Gap.text]
  | cons c v ih =>
    have hc : isVerbatim c = true := hv c List.mem_cons_self
    obtain ⟨s', hstep, hs', hshown⟩ := step_verbatim (v ++ '"' :: r) hs hm hc
    have hadvance : m.advance c = m.along 1 := by
      simp [Mark.advance, Mark.along, isBreak_of_isVerbatim hc]
    rw [List.cons_append, run, hstep]
    dsimp only
    rw [hadvance, ih hs' (Nat.add_one_ne_zero _) fun d hd => hv d (List.mem_cons_of_mem _ hd),
      hshown]
    simp [Mark.along, Nat.add_assoc, Nat.add_comm 1]

end Quoted

end TracedService.Yaml
