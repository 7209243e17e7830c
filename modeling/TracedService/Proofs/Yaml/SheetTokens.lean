import TracedService.Proofs.Yaml.Scan

/-! The tokens of a sheet: field by field, section by section, up to the end of the stream. -/

namespace TracedService.Yaml

namespace Section

def fieldTokens (f : List Char × List Char) : List Token :=
  [.key, .scalar f.1 .plain, .value, .scalar f.2 .double]

def tokens (s : Section (List Char)) : List Token :=
  [.key, .scalar s.name .plain, .value, .blockMappingStart] ++ s.fields.flatMap fieldTokens ++
    [.blockEnd]

end Section

def sheetTokens (sheet : List (Section (List Char))) : List Token :=
  [.streamStart, .blockMappingStart] ++ sheet.flatMap Section.tokens ++ [.blockEnd, .streamEnd]

namespace Place

variable {p : Place} {f : List Char × List Char} {t : List Char}

/-- Behind a key or a value, at the end of its line. -/
def atBreak (m : Mark) (levels : List Nat) (out : List Token) (t : List Char) : Place :=
  ⟨⟨m, '\n' :: t⟩, levels, out, false⟩

theorem scansTo_field (m : Mark) (out : List Token) (t : List Char) (hname : IsWord f.1)
    (hvalue : Verbatim f.2) {levels : List Nat} (hlevels : levels = [0] ∨ levels = [2, 0]) :
    ∃ m', (atBreak m levels out (Section.fieldText f ++ t)).ScansTo
      (atBreak m' [2, 0] (out ++ opening levels 2 ++ Section.fieldTokens f) t) := by
  obtain ⟨rest, hrest⟩ : ∃ rest, rest = ' ' :: '"' :: (f.2 ++ '"' :: '\n' :: t) := ⟨_, rfl⟩
  have hskip : Lexer.skipBlanks false false false m ('\n' :: (Section.fieldText f ++ t)) =
      (true, ⟨⟨m.line + 1, 2⟩, f.1 ++ ':' :: rest⟩) := by
    rw [Lexer.skipBlanks_break, ← Lexer.skipBlanks_word true hname, hrest]
    simp [Section.fieldText, Lexer.skipBlanks, isBreak, Mark.advance]
  have hmargin : (margin (atBreak m levels out (Section.fieldText f ++ t))
      ⟨⟨m.line + 1, 2⟩, f.1 ++ ':' :: rest⟩) =
      ⟨⟨⟨m.line + 1, 2⟩, f.1 ++ ':' :: rest⟩, levels, out, true⟩ := by
    rcases hlevels with rfl | rfl <;> simp [margin, dedent, atBreak, closes]
  have hdeepened : deepened levels 2 = [2, 0] := by
    rcases hlevels with rfl | rfl <;> rfl
  have hkey := scansTo_key (p := atBreak m levels out (Section.fieldText f ++ t)) hname
    (by rw [hrest]; rfl) hskip
  rw [hmargin] at hkey
  dsimp only at hkey
  rw [hdeepened, hrest] at hkey
  have hall := hkey.trans (scansTo_value hvalue rfl rfl (by simp [Mark.along]))
  exact ⟨_, by simpa [atBreak, Section.fieldTokens] using hall⟩

theorem scansTo_fields (m : Mark) (out : List Token) (t : List Char)
    {fields : List (List Char × List Char)} (hfields : ∀ f ∈ fields, IsWord f.1 ∧ Verbatim f.2) :
    ∃ m', (atBreak m [2, 0] out (fields.flatMap Section.fieldText ++ t)).ScansTo
      (atBreak m' [2, 0] (out ++ fields.flatMap Section.fieldTokens) t) := by
  induction fields generalizing m out with
  | nil => exact ⟨m, by simpa using ScansTo.refl _⟩
  | cons f fields ih =>
    obtain ⟨hname, hvalue⟩ := hfields f List.mem_cons_self
    obtain ⟨m₁, hfirst⟩ :=
      scansTo_field m out (fields.flatMap Section.fieldText ++ t) hname hvalue (.inr rfl)
    obtain ⟨m₂, hrest⟩ := ih m₁ (out ++ Section.fieldTokens f)
      fun g hg => hfields g (List.mem_cons_of_mem _ hg)
    refine ⟨m₂, ?_⟩
    have hopening : opening [2, 0] 2 = [] := rfl
    rw [hopening, List.append_nil] at hfirst
    rw [List.flatMap_cons, List.flatMap_cons, List.append_assoc, ← List.append_assoc out]
    exact hfirst.trans hrest

/-- The token between what came before and the next section. -/
def lead (levels : List Nat) : Token :=
  if levels.isEmpty then .blockMappingStart else .blockEnd

theorem skipBlanks_section {s : Section (List Char)} (hs : s.Plain) (line : Nat) :
    ∃ n, Lexer.skipBlanks false true false ⟨line, 0⟩ (s.text ++ t) = (true, ⟨⟨n, 0⟩,
      s.name ++ ':' :: '\n' :: (s.fields.flatMap Section.fieldText ++ t)⟩) := by
  obtain ⟨n, hn⟩ := Lexer.skipBlanks_notes (m := ⟨line, 0⟩)
    (t := s.name ++ ':' :: '\n' :: (s.fields.flatMap Section.fieldText ++ t)) hs.notes
  refine ⟨n, ?_⟩
  rw [← Lexer.skipBlanks_word true hs.name, ← hn]
  simp [Section.text]

theorem scansTo_section {s : Section (List Char)} (hs : s.Plain) {n : Nat}
    (hskip : Lexer.skipBlanks false p.allowed false p.cursor.mark p.cursor.rest = (true, ⟨⟨n, 0⟩,
      s.name ++ ':' :: '\n' :: (s.fields.flatMap Section.fieldText ++ t)⟩))
    (hlevels : p.levels = [] ∨ p.levels = [2, 0]) :
    ∃ m' out', out' ++ [.blockEnd] = p.out ++ lead p.levels :: s.tokens ∧
      p.ScansTo (atBreak m' [2, 0] out' t) := by
  obtain ⟨f, fs, hfields⟩ := List.exists_cons_of_ne_nil hs.nonempty
  have hplain (g : List Char × List Char) (hg : g ∈ f :: fs) : IsWord g.1 ∧ Verbatim g.2 :=
    hs.fields g (hfields ▸ hg)
  have hkey := scansTo_key hs.name rfl hskip
  have hmargin (next : Cursor) (hnext : next.mark.column = 0) :
      deepened (p.margin next).levels next.mark.column = [0] ∧
        (p.margin next).out ++ opening (p.margin next).levels next.mark.column =
          p.out ++ [lead p.levels] := by
    rcases hlevels with h | h <;>
      simp [margin, dedent, h, closes, deepened, opening, lead, hnext]
  have hnext := hmargin ⟨⟨n, 0⟩,
    s.name ++ ':' :: '\n' :: (s.fields.flatMap Section.fieldText ++ t)⟩ rfl
  rw [hnext.1, hnext.2, hfields, List.flatMap_cons, List.append_assoc] at hkey
  obtain ⟨m₁, hfirst⟩ := scansTo_field (Mark.along ⟨n, 0⟩ (s.name.length + 1))
    (p.out ++ [lead p.levels] ++ [.key, .scalar s.name .plain, .value])
    (fs.flatMap Section.fieldText ++ t) (hplain f List.mem_cons_self).1
    (hplain f List.mem_cons_self).2 (.inl rfl)
  obtain ⟨m₂, hrest⟩ := scansTo_fields m₁ (p.out ++ [lead p.levels] ++
    [.key, .scalar s.name .plain, .value] ++ opening [0] 2 ++ Section.fieldTokens f) t
    fun g hg => hplain g (List.mem_cons_of_mem _ hg)
  refine ⟨m₂, _, ?_, hkey.trans (hfirst.trans hrest)⟩
  simp [Section.tokens, hfields, opening]

theorem scansTo_sections (m : Mark) (out : List Token) (t : List Char)
    {sheet : List (Section (List Char))} (hsheet : ∀ s ∈ sheet, s.Plain) :
    ∃ m' out', out' ++ [.blockEnd] = out ++ [.blockEnd] ++ sheet.flatMap Section.tokens ∧
      (atBreak m [2, 0] out (sheet.flatMap Section.text ++ t)).ScansTo
        (atBreak m' [2, 0] out' t) := by
  induction sheet generalizing m out with
  | nil => exact ⟨m, out, by simp, by simpa using ScansTo.refl _⟩
  | cons s sheet ih =>
    obtain ⟨n, hskip⟩ := skipBlanks_section (hsheet s List.mem_cons_self) (m.line + 1)
      (t := sheet.flatMap Section.text ++ t)
    obtain ⟨m₁, out₁, hout₁, hfirst⟩ := scansTo_section
      (p := atBreak m [2, 0] out (s.text ++ (sheet.flatMap Section.text ++ t)))
      (hsheet s List.mem_cons_self) (Lexer.skipBlanks_break.trans hskip) (.inr rfl)
    obtain ⟨m₂, out₂, hout₂, hrest⟩ := ih m₁ out₁ fun s' hs' =>
      hsheet s' (List.mem_cons_of_mem _ hs')
    refine ⟨m₂, out₂, ?_, ?_⟩
    · rw [hout₂, hout₁]
      simp [atBreak, lead]
    · rw [List.flatMap_cons, List.append_assoc]
      exact hfirst.trans hrest

theorem dedent_none (p : Place) : p.dedent none =
    { p with levels := [], out := p.out ++ p.levels.map fun _ => .blockEnd } := by
  obtain ⟨htake, hdrop⟩ : p.levels.takeWhile (closes none) = p.levels ∧
      p.levels.dropWhile (closes none) = [] := by
    induction p.levels with
    | nil => exact ⟨rfl, rfl⟩
    | cons i is ih => exact ⟨congrArg (i :: ·) ih.1, ih.2⟩
  rw [dedent, htake, hdrop]

theorem streamEnd_lexer {q : Place} (ready : Nat) (hcolumn : q.cursor.mark.column = 0) :
    (q.lexer none ready).streamEnd =
      .ok { ({ q with
          levels := []
          out := q.out ++ (q.levels.map fun _ => .blockEnd) ++ [.streamEnd]
          allowed := false } : Place).lexer none ready with ended := true } := by
  obtain ⟨⟨m, rest⟩, levels, out, allowed⟩ := q
  have hmoved : ((lexer ⟨⟨m, rest⟩, levels, out, allowed⟩ none ready).moveTo ⟨m, rest⟩) =
      lexer ⟨⟨m, rest⟩, levels, out, allowed⟩ none ready := rfl
  have hcolumn' : (lexer ⟨⟨m, rest⟩, levels, out, allowed⟩ none ready).cursor.mark.column = 0 :=
    hcolumn
  rw [Lexer.streamEnd]
  simp only [hcolumn', if_true]
  change (do
    let l ← ((lexer ⟨⟨m, rest⟩, levels, out, allowed⟩ none ready).moveTo ⟨m, rest⟩).endBlocks
    return { l with ended := true }.add .streamEnd) = _
  rw [hmoved, Lexer.endBlocks, unindent_lexer, dedent_none]
  simp [lexer, Lexer.dropKey, Lexer.add, bind, Except.bind, pure, Except.pure, Nat.add_assoc]

theorem settle_ended (q : Place) (ready : Nat) :
    ({ (q.lexer none ready) with ended := true } : Lexer).settle =
      .ok { q.lexer none (max ready q.out.length) with ended := true } := by
  simp [Lexer.settle, Lexer.dropStaleKeys, lexer, bind, Except.bind, pure, Except.pure]

/-- The end of the stream, behind the last line. -/
theorem run_end (m : Mark) (out : List Token) (ready fuel : Nat) :
    ∃ l, Lexer.run (fuel + 1) ((atBreak m [2, 0] out []).lexer none ready) = (l, none) ∧
      l.queue.reverse.take l.ready = out ++ [.blockEnd, .blockEnd, .streamEnd] := by
  have hskip : Lexer.skipBlanks false false false m ['\n'] = (true, ⟨⟨m.line + 1, 0⟩, []⟩) := by
    simp [Lexer.skipBlanks, isBreak, Mark.advance]
  have hstep : ((atBreak m [2, 0] out []).lexer none ready).step = _ :=
    step_lexer (atBreak m [2, 0] out []) hskip rfl
  dsimp only at hstep
  rw [streamEnd_lexer ready rfl] at hstep
  have hended (l : Lexer) (h : l.ended = true) : Lexer.run fuel l = (l, none) := by
    cases fuel with
    | zero => rfl
    | succ fuel => rw [Lexer.run, if_pos h]
  refine ⟨_, (run_succ fuel rfl hstep (settle_ended _ ready)).trans (hended _ rfl), ?_⟩
  simp only [lexer, dedent, atBreak]
  rw [List.reverse_reverse, List.take_of_length_le (Nat.le_max_right _ _)]
  simp [closes]

end Place

theorem tokens_sheet {sheet : List (Section (List Char))} (hne : sheet ≠ [])
    (hsheet : ∀ s ∈ sheet, s.Plain) :
    Lexer.tokens (sheet.flatMap Section.text) = (sheetTokens sheet, none) := by
  obtain ⟨s, sheet, rfl⟩ := List.exists_cons_of_ne_nil hne
  let start : Place := ⟨⟨{}, (s :: sheet).flatMap Section.text⟩, [], [.streamStart], true⟩
  obtain ⟨n, hskip⟩ := Place.skipBlanks_section (hsheet s List.mem_cons_self) 0
    (t := sheet.flatMap Section.text)
  obtain ⟨m₁, out₁, hout₁, hfirst⟩ := Place.scansTo_section (p := start)
    (hsheet s List.mem_cons_self) hskip (.inl rfl)
  obtain ⟨m₂, out₂, hout₂, hrest⟩ := Place.scansTo_sections m₁ out₁ []
    fun s' hs' => hsheet s' (List.mem_cons_of_mem _ hs')
  rw [List.append_nil] at hrest
  obtain ⟨ready, k, hk, hrun⟩ := (hfirst.trans hrest) 1
  have hstart (fuel : Nat) : Lexer.run (fuel + 1)
      (Lexer.ofSource ((s :: sheet).flatMap Section.text)) =
        Lexer.run fuel (start.lexer none 1) :=
    Place.run_succ fuel rfl rfl (Place.settle_lexer start 0)
  obtain ⟨fuel, hfuel⟩ : ∃ fuel, ((s :: sheet).flatMap Section.text).length + 1 =
      fuel + 1 + k := by
    have hone : k + 1 ≤ ((s :: sheet).flatMap Section.text).length := hk
    exact ⟨((s :: sheet).flatMap Section.text).length - k, by omega⟩
  obtain ⟨l, hend, hqueue⟩ := Place.run_end m₂ out₂ ready fuel
  have hall : Lexer.run (((s :: sheet).flatMap Section.text).length + 2)
      (Lexer.ofSource ((s :: sheet).flatMap Section.text)) = (l, none) := by
    rw [hstart, hfuel, hrun, hend]
  have hout : out₂ ++ [.blockEnd, .blockEnd, .streamEnd] = sheetTokens (s :: sheet) := by
    have hblocks : out₂ ++ [.blockEnd, .blockEnd, .streamEnd] =
        out₂ ++ [.blockEnd] ++ [.blockEnd, .streamEnd] := by simp
    rw [hblocks, hout₂, hout₁]
    simp [sheetTokens, start, Place.lead]
  rw [Lexer.tokens, hall]
  dsimp only
  rw [hqueue, hout]

end TracedService.Yaml
