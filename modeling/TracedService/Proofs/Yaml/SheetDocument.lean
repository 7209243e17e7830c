import TracedService.Proofs.Yaml.SheetTokens
import TracedService.Yaml.Document

/-! The document of a sheet: its sections, fields and values come out as they are written. -/

namespace TracedService.Yaml

/-- A word that stands alone. -/
def wordScalar (w : List Char) : Scalar :=
  ⟨w, .plain, none⟩

def textScalar (v : List Char) : Scalar :=
  ⟨v, .double, none⟩

namespace Section

def fieldEvents (f : List Char × List Char) : List Event :=
  [.scalar none (wordScalar f.1), .scalar none (textScalar f.2)]

def events (s : Section (List Char)) : List Event :=
  [.scalar none (wordScalar s.name), .mappingStart none] ++ s.fields.flatMap fieldEvents ++
    [.mappingEnd]

end Section

def sheetEvents (sheet : List (Section (List Char))) : List Event :=
  [.documentStart, .mappingStart none] ++ sheet.flatMap Section.events ++
    [.mappingEnd, .documentEnd, .streamEnd]

namespace Parser

/-- The parser gets from one state to another and hands out these events. -/
def Emits (p : Parser) (es : List Event) (q : Parser) : Prop :=
  ∀ fuel, run (fuel + es.length) p = (es ++ (run fuel q).1, (run fuel q).2)

theorem Emits.refl (p : Parser) : p.Emits [] p :=
  fun _ => rfl

theorem Emits.of_step {p q : Parser} {e : Event} (hrule : p.rule ≠ .finished)
    (hstep : p.step = .ok (e, q)) : p.Emits [e] q := by
  intro fuel
  rw [List.length_singleton, run, if_neg hrule, hstep]
  rfl

theorem Emits.trans {p q r : Parser} {es fs : List Event} (h : p.Emits es q)
    (k : q.Emits fs r) : p.Emits (es ++ fs) r := by
  intro fuel
  have hlength : fuel + (es ++ fs).length = fuel + fs.length + es.length := by
    rw [List.length_append]
    omega
  rw [hlength, h, k, List.append_assoc]

variable {f : Fault} {stack : List Rule} {handles : List (List Char × Text.Utf8.Bytes)}
  {ts : List Token}

theorem emits_field (g : List Char × List Char) (first : Bool) :
    (⟨(if first then [.blockMappingStart] else []) ++ (Section.fieldTokens g ++ ts), f,
      .blockKey first, stack, handles⟩ : Parser).Emits (Section.fieldEvents g)
      ⟨ts, f, .blockKey false, stack, handles⟩ := by
  have hname : (⟨(if first then [.blockMappingStart] else []) ++ (Section.fieldTokens g ++ ts), f,
      .blockKey first, stack, handles⟩ : Parser).Emits [.scalar none (wordScalar g.1)]
      ⟨.value :: .scalar g.2 .double :: ts, f, .blockValue, stack, handles⟩ := by
    cases first <;> exact .of_step (by simp) rfl
  have hvalue : (⟨.value :: .scalar g.2 .double :: ts, f, .blockValue, stack, handles⟩ :
      Parser).Emits [.scalar none (textScalar g.2)] ⟨ts, f, .blockKey false, stack, handles⟩ :=
    .of_step (by simp) rfl
  exact hname.trans hvalue

theorem emits_fields (fields : List (List Char × List Char)) :
    (⟨fields.flatMap Section.fieldTokens ++ ts, f, .blockKey false, stack, handles⟩ :
      Parser).Emits (fields.flatMap Section.fieldEvents)
      ⟨ts, f, .blockKey false, stack, handles⟩ := by
  induction fields with
  | nil => exact .refl _
  | cons g fields ih =>
    rw [List.flatMap_cons, List.flatMap_cons, List.append_assoc]
    exact (emits_field g false).trans ih

theorem emits_section {s : Section (List Char)} (hs : s.Plain) (first : Bool) :
    (⟨(if first then [.blockMappingStart] else []) ++ (s.tokens ++ ts), f, .blockKey first, stack,
      handles⟩ : Parser).Emits s.events ⟨ts, f, .blockKey false, stack, handles⟩ := by
  obtain ⟨g, gs, hfields⟩ := List.exists_cons_of_ne_nil hs.nonempty
  have hname : (⟨(if first then [.blockMappingStart] else []) ++ (s.tokens ++ ts), f,
      .blockKey first, stack, handles⟩ : Parser).Emits [.scalar none (wordScalar s.name)]
      ⟨.value :: .blockMappingStart :: (s.fields.flatMap Section.fieldTokens ++ .blockEnd :: ts),
        f, .blockValue, stack, handles⟩ := by
    rw [Section.tokens, List.append_assoc]
    cases first <;> exact .of_step (by simp) rfl
  have hstart : (⟨.value :: .blockMappingStart :: (s.fields.flatMap Section.fieldTokens ++
      .blockEnd :: ts), f, .blockValue, stack, handles⟩ : Parser).Emits [.mappingStart none]
      ⟨.blockMappingStart :: (s.fields.flatMap Section.fieldTokens ++ .blockEnd :: ts), f,
        .blockKey true, .blockKey false :: stack, handles⟩ :=
    .of_step (by simp) rfl
  have hfields : (⟨.blockMappingStart :: (s.fields.flatMap Section.fieldTokens ++
      .blockEnd :: ts), f, .blockKey true, .blockKey false :: stack, handles⟩ : Parser).Emits
      (s.fields.flatMap Section.fieldEvents)
      ⟨.blockEnd :: ts, f, .blockKey false, .blockKey false :: stack, handles⟩ := by
    rw [hfields, List.flatMap_cons, List.flatMap_cons, List.append_assoc]
    exact (emits_field g true).trans (emits_fields gs)
  have hend : (⟨.blockEnd :: ts, f, .blockKey false, .blockKey false :: stack, handles⟩ :
      Parser).Emits [.mappingEnd] ⟨ts, f, .blockKey false, stack, handles⟩ :=
    .of_step (by simp) rfl
  have hall := ((hname.trans hstart).trans hfields).trans hend
  exact hall

theorem emits_sections {sheet : List (Section (List Char))} (hsheet : ∀ s ∈ sheet, s.Plain) :
    (⟨sheet.flatMap Section.tokens ++ ts, f, .blockKey false, stack, handles⟩ : Parser).Emits
      (sheet.flatMap Section.events) ⟨ts, f, .blockKey false, stack, handles⟩ := by
  induction sheet with
  | nil => exact .refl _
  | cons s sheet ih =>
    rw [List.flatMap_cons, List.flatMap_cons, List.append_assoc]
    exact (emits_section (hsheet s List.mem_cons_self) false).trans
      (ih fun s' hs' => hsheet s' (List.mem_cons_of_mem _ hs'))

theorem emits_sheet {sheet : List (Section (List Char))} (hne : sheet ≠ [])
    (hsheet : ∀ s ∈ sheet, s.Plain) :
    (⟨sheetTokens sheet, f, .streamStart, [], []⟩ : Parser).Emits (sheetEvents sheet)
      ⟨[], f, .finished, [], []⟩ := by
  obtain ⟨s, sheet, rfl⟩ := List.exists_cons_of_ne_nil hne
  have hdocument : (⟨sheetTokens (s :: sheet), f, .streamStart, [], []⟩ : Parser).Emits
      [.documentStart] ⟨(sheetTokens (s :: sheet)).tail, f, .blockNode, [.documentEnd],
        standardHandles⟩ :=
    .of_step (by simp) rfl
  have hstart : (⟨(sheetTokens (s :: sheet)).tail, f, .blockNode, [.documentEnd],
      standardHandles⟩ : Parser).Emits [.mappingStart none]
      ⟨(sheetTokens (s :: sheet)).tail, f, .blockKey true, [.documentEnd], standardHandles⟩ :=
    .of_step (by simp) rfl
  have hsections : (⟨(sheetTokens (s :: sheet)).tail, f, .blockKey true, [.documentEnd],
      standardHandles⟩ : Parser).Emits ((s :: sheet).flatMap Section.events)
      ⟨[.blockEnd, .streamEnd], f, .blockKey false, [.documentEnd], standardHandles⟩ := by
    have hfirst := @emits_section f [.documentEnd] standardHandles
      (sheet.flatMap Section.tokens ++ [.blockEnd, .streamEnd]) s (hsheet s List.mem_cons_self)
      true
    have hrest := @emits_sections f [.documentEnd] standardHandles [.blockEnd, .streamEnd] sheet
      fun s' hs' => hsheet s' (List.mem_cons_of_mem _ hs')
    have hall := hfirst.trans hrest
    simpa [sheetTokens] using hall
  have hmapping : (⟨[.blockEnd, .streamEnd], f, .blockKey false, [.documentEnd],
      standardHandles⟩ : Parser).Emits [.mappingEnd]
      ⟨[.streamEnd], f, .documentEnd, [], standardHandles⟩ :=
    .of_step (by simp) rfl
  have hdocumentEnd : (⟨[.streamEnd], f, .documentEnd, [], standardHandles⟩ : Parser).Emits
      [.documentEnd] ⟨[.streamEnd], f, .document false, [], []⟩ :=
    .of_step (by simp) rfl
  have hstream : (⟨[.streamEnd], f, .document false, [], []⟩ : Parser).Emits [.streamEnd]
      ⟨[], f, .finished, [], []⟩ :=
    .of_step (by simp) rfl
  have hend := (hmapping.trans hdocumentEnd).trans hstream
  exact ((hdocument.trans hstart).trans hsections).trans hend

theorem run_finished (p : Parser) (h : p.rule = .finished) (fuel : Nat) :
    run fuel p = ([], none) := by
  cases fuel with
  | zero => rfl
  | succ fuel => rw [run, if_pos h]

end Parser

/-- Characters of which a sheet is made. -/
def isSheetChar (c : Char) : Bool :=
  (32 ≤ c.toNat && c.toNat < 127) || c == '\n'

theorem unifyBreaks_of_isSheetChar {s : List Char} (hs : ∀ c ∈ s, isSheetChar c = true) :
    unifyBreaks s = s := by
  induction s with
  | nil => rfl
  | cons c s ih =>
    have hc := hs c List.mem_cons_self
    have hne (d : Char) (hd : isSheetChar d = false) : c ≠ d := ne_of_class hc hd
    rw [unifyBreaks.eq_def]
    split
    · rename_i heq
      cases heq
      exact absurd rfl (hne '\r' rfl)
    · rename_i heq
      cases heq
      rw [ih fun d hd => hs d (List.mem_cons_of_mem _ hd)]
      simp [hne '\r' rfl, hne '\u0085' rfl]
    · rename_i heq
      cases heq

theorem source_of_isSheetChar {s : List Char} (hs : ∀ c ∈ s, isSheetChar c = true) :
    source s = .ok s := by
  have hprintable : ∀ c ∈ s, isPrintable c = true := by
    intro c hc
    have := hs c hc
    simp only [isSheetChar, Bool.or_eq_true, Bool.and_eq_true, decide_eq_true_eq,
      beq_iff_eq] at this
    rcases this with h | rfl
    · simp [isPrintable]
      omega
    · rfl
  have htake : s.takeWhile isPrintable = s := by
    rw [← List.append_nil s, List.takeWhile_append_of_pos hprintable]
    simp
  rw [source, htake]
  simp [unifyBreaks_of_isSheetChar hs]

theorem isSheetChar_of_isWordChar {c : Char} (hc : isWordChar c = true) :
    isSheetChar c = true := by
  rcases isWordChar_iff.mp hc with h | rfl
  · simp [isSheetChar]
    omega
  · rfl

theorem isSheetChar_of_isVerbatim {c : Char} (hc : isVerbatim c = true) :
    isSheetChar c = true := by
  simp only [isVerbatim, Bool.and_eq_true] at hc
  simp [isSheetChar, hc.1.1]

theorem isSheetChar_note {line : List Char} (h : IsNote line) :
    ∀ c ∈ line, isSheetChar c = true := by
  rcases h with rfl | ⟨r, rfl, hr⟩
  · nofun
  · intro c hc
    rcases List.mem_cons.mp hc with rfl | hc
    · rfl
    · simp [isSheetChar, hr c hc]

theorem isSheetChar_field {f : List Char × List Char} (hname : IsWord f.1)
    (hvalue : Verbatim f.2) : ∀ c ∈ Section.fieldText f, isSheetChar c = true := by
  intro c hc
  simp only [Section.fieldText, List.cons_append, List.mem_cons, List.mem_append,
    List.not_mem_nil, or_false] at hc
  rcases hc with rfl | rfl | (hc | rfl | rfl | rfl | hc) | rfl | rfl
  · rfl
  · rfl
  · exact isSheetChar_of_isWordChar (hname.chars c hc)
  · rfl
  · rfl
  · rfl
  · exact isSheetChar_of_isVerbatim (hvalue c hc)
  · rfl
  · rfl

theorem isSheetChar_text {s : Section (List Char)} (hs : s.Plain) :
    ∀ c ∈ s.text, isSheetChar c = true := by
  intro c hc
  simp only [Section.text, Section.notesText, List.mem_append, List.mem_cons,
    List.mem_flatMap, List.not_mem_nil, or_false] at hc
  rcases hc with (⟨line, hline, hc | rfl⟩ | hc) | rfl | rfl | ⟨f, hf, hc⟩
  · exact isSheetChar_note (hs.notes line hline) c hc
  · rfl
  · exact isSheetChar_of_isWordChar (hs.name.chars c hc)
  · rfl
  · rfl
  · exact isSheetChar_field (hs.fields f hf).1 (hs.fields f hf).2 c hc

namespace Section

def fieldItems (f : List Char × List Char) : List Item :=
  [.scalar (wordScalar f.1), .scalar (textScalar f.2)]

def items (s : Section (List Char)) : List Item :=
  [.scalar (wordScalar s.name), .mappingStart] ++ s.fields.flatMap fieldItems ++ [.mappingEnd]

end Section

def sheetItems (sheet : List (Section (List Char))) : List Item :=
  [.mappingStart] ++ sheet.flatMap Section.items ++ [.mappingEnd]

namespace Document

variable {f : Fault} {es : List Event}

/-- What is collected when items are added that no anchor leads to. -/
def Partial.with (p : Partial) (items : List Item) : Partial :=
  { p with items := items.reverse ++ p.items }

theorem Partial.with_with (p : Partial) (xs ys : List Item) :
    (p.with xs).with ys = p.with (xs ++ ys) := by
  simp [Partial.with]

theorem collect_fields (p : Partial) (fields : List (List Char × List Char)) :
    collect f p (fields.flatMap Section.fieldEvents ++ es) =
      collect f (p.with (fields.flatMap Section.fieldItems)) es := by
  induction fields generalizing p with
  | nil => rfl
  | cons g fields ih =>
    rw [List.flatMap_cons, List.flatMap_cons, List.append_assoc, ← Partial.with_with]
    exact ih (p.with (Section.fieldItems g))

theorem collect_section (p : Partial) (s : Section (List Char)) :
    collect f p (s.events ++ es) = collect f (p.with s.items) es := by
  have hfields := @collect_fields f (.mappingEnd :: es)
    (p.with [.scalar (wordScalar s.name), .mappingStart]) s.fields
  rw [Section.events, Section.items, List.append_assoc, List.append_assoc, ← Partial.with_with,
    ← Partial.with_with]
  exact hfields

theorem collect_sections (p : Partial) (sheet : List (Section (List Char))) :
    collect f p (sheet.flatMap Section.events ++ es) =
      collect f (p.with (sheet.flatMap Section.items)) es := by
  induction sheet generalizing p with
  | nil => rfl
  | cons s sheet ih =>
    rw [List.flatMap_cons, List.flatMap_cons, List.append_assoc, collect_section, ih,
      Partial.with_with]

theorem collect_sheet (sheet : List (Section (List Char))) :
    collect f {} (sheetEvents sheet) = ⟨sheetItems sheet, [], none, true⟩ := by
  have hsections := @collect_sections f [.mappingEnd, .documentEnd, .streamEnd]
    (Partial.with {} [.mappingStart]) sheet
  rw [sheetEvents, List.append_assoc]
  refine hsections.trans ?_
  simp [collect, finish, Partial.with, Partial.add, sheetItems]

end Document

theorem length_sheetEvents_le (sheet : List (Section (List Char))) :
    (sheetEvents sheet).length ≤ (sheetTokens sheet).length + 1 := by
  have hfields (fields : List (List Char × List Char)) :
      (fields.flatMap Section.fieldEvents).length ≤
        (fields.flatMap Section.fieldTokens).length := by
    induction fields with
    | nil => exact Nat.le_refl 0
    | cons g fields ih =>
      simp only [List.flatMap_cons, List.length_append, Section.fieldEvents, Section.fieldTokens,
        List.length_cons, List.length_nil] at ih ⊢
      omega
  have hsections : (sheet.flatMap Section.events).length ≤
      (sheet.flatMap Section.tokens).length := by
    induction sheet with
    | nil => exact Nat.le_refl 0
    | cons s sheet ih =>
      have hsection := hfields s.fields
      simp only [List.flatMap_cons, List.length_append, Section.events, Section.tokens,
        List.length_cons, List.length_nil] at ih ⊢
      omega
  simp only [sheetEvents, sheetTokens, List.length_append, List.length_cons, List.length_nil]
  omega

/-- A sheet is one document that holds its sections, fields and values as they are written. -/
theorem ofText_sheet {sheet : List (Section (List Char))} (hne : sheet ≠ [])
    (hsheet : ∀ s ∈ sheet, s.Plain) :
    Document.ofText (sheet.flatMap Section.text) = ⟨sheetItems sheet, [], none, true⟩ := by
  have hsource : source (sheet.flatMap Section.text) = .ok (sheet.flatMap Section.text) := by
    refine source_of_isSheetChar fun c hc => ?_
    obtain ⟨s, hs, hc⟩ := List.mem_flatMap.mp hc
    exact isSheetChar_text (hsheet s hs) c hc
  obtain ⟨fuel, hfuel⟩ : ∃ fuel, 8 * (sheetTokens sheet).length + 8 =
      fuel + (sheetEvents sheet).length := by
    have := length_sheetEvents_le sheet
    exact ⟨8 * (sheetTokens sheet).length + 8 - (sheetEvents sheet).length, by omega⟩
  have hevents : events (sheet.flatMap Section.text) = (sheetEvents sheet, none) := by
    rw [events, hsource]
    simp only [tokens_sheet hne hsheet]
    rw [hfuel]
    refine (Parser.emits_sheet hne hsheet fuel).trans ?_
    rw [Parser.run_finished _ rfl, List.append_nil]
  rw [Document.ofText, hevents]
  exact Document.collect_sheet sheet

end TracedService.Yaml
