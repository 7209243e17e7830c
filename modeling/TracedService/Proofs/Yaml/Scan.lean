import TracedService.Proofs.Yaml.Words

/-! Scanning a sheet. Between two values the lexer has nothing pending, so that it is told by the
place it has come to, the columns of the open blocks and the tokens so far. -/

namespace TracedService.Yaml

/-- A lexer outside of brackets with no key pending. -/
structure Place where
  cursor : Cursor
  /-- Columns of the open blocks, the innermost first. -/
  levels : List Nat
  out : List Token
  /-- A key may begin here. -/
  allowed : Bool

theorem Lexer.step_of_skip {l l' : Lexer} {allowed : Bool} {next : Cursor}
    (started : l.started = true)
    (hskip : skipBlanks l.inFlow l.keyAllowed false l.cursor.mark l.cursor.rest = (allowed, next))
    (hkeys : ({ l with keyAllowed := allowed }.moveTo next).dropStaleKeys = .ok l') :
    l.step =
      match l'.cursor.rest with
      | [] => (l'.unindent (some l'.cursor.mark.column)).streamEnd
      | c :: r => (l'.unindent (some l'.cursor.mark.column)).fetch c r := by
  rw [step, if_pos started, hskip]
  dsimp only
  rw [hkeys]
  rfl

theorem Lexer.length_skipBlanks_le (flow allowed comment : Bool) (m : Mark) (s : List Char) :
    (Lexer.skipBlanks flow allowed comment m s).2.rest.length ≤ s.length := by
  fun_induction Lexer.skipBlanks flow allowed comment m s with
  | case1 => exact Nat.le_refl _
  | case6 => exact Nat.le_refl _
  | _ =>
    rename_i ih
    exact Nat.le_succ_of_le ih

namespace Place

/-- The lexer of a place that has handed on `ready` tokens, with a key pending or not. -/
def lexer (p : Place) (key : Option SimpleKey) (ready : Nat) : Lexer where
  cursor := p.cursor
  started := true
  indent := p.levels.head?
  indents := (p.levels.map some ++ [none]).tail
  keyAllowed := p.allowed
  keys := [key]
  count := p.out.length
  queue := p.out.reverse
  ready := ready

/-- The lexer gets from one place to another in steps that take a character each. -/
def ScansTo (p q : Place) : Prop :=
  ∀ ready, ∃ ready' n, n + q.cursor.rest.length ≤ p.cursor.rest.length ∧
    ∀ fuel, Lexer.run (fuel + n) (p.lexer none ready) = Lexer.run fuel (q.lexer none ready')

theorem ScansTo.refl (p : Place) : p.ScansTo p :=
  fun ready => ⟨ready, 0, by simp, fun _ => rfl⟩

theorem ScansTo.trans {p q r : Place} (h : p.ScansTo q) (k : q.ScansTo r) : p.ScansTo r := by
  intro ready
  obtain ⟨ready₁, n, hn, hrun⟩ := h ready
  obtain ⟨ready₂, m, hm, hrun'⟩ := k ready₁
  refine ⟨ready₂, m + n, by omega, fun fuel => ?_⟩
  rw [← Nat.add_assoc, hrun, hrun']

/-- A block at column `i` ends where a line begins at `column`, or at the end of the stream. -/
def closes (column : Option Nat) (i : Nat) : Bool :=
  !column.any (i ≤ ·)

/-- The place once the blocks that are indented deeper are closed. -/
def dedent (p : Place) (column : Option Nat) : Place :=
  { p with
    levels := p.levels.dropWhile (closes column)
    out := p.out ++ (p.levels.takeWhile (closes column)).map fun _ => .blockEnd }

variable {p : Place} {key : Option SimpleKey} {ready : Nat}

theorem unindent_lexer (p : Place) (key : Option SimpleKey) (ready : Nat) (column : Option Nat) :
    (p.lexer key ready).unindent column = (p.dedent column).lexer key ready := by
  obtain ⟨cursor, levels, out, allowed⟩ := p
  change Lexer.closeBlocks column (levels.map some ++ [none]).tail _ = _
  induction levels generalizing out with
  | nil => simp [lexer, dedent, Lexer.closeBlocks]
  | cons i is ih =>
    have hindents : ((i :: is).map some ++ [none]).tail =
        is.head? :: (is.map some ++ [none]).tail := by
      cases is <;> rfl
    rw [hindents, Lexer.closeBlocks]
    by_cases hc : closes column i = true
    · have hany : column.any (i ≤ ·) = false := by simpa [closes] using hc
      have hnext : ({ (lexer ⟨cursor, i :: is, out, allowed⟩ key ready) with
          indent := is.head?, indents := (is.map some ++ [none]).tail } : Lexer).add .blockEnd =
          lexer ⟨cursor, is, out ++ [.blockEnd], allowed⟩ key ready := by
        simp [lexer, Lexer.add]
      have hdedent : dedent ⟨cursor, i :: is, out, allowed⟩ column =
          dedent ⟨cursor, is, out ++ [.blockEnd], allowed⟩ column := by
        simp [dedent, hc]
      rw [hdedent, ← ih, ← hnext]
      simp [lexer, Lexer.inFlow, hany]
    · have hany : column.any (i ≤ ·) = true := by simpa [closes] using hc
      simp [lexer, Lexer.inFlow, hany, dedent, hc]

theorem settle_lexer (p : Place) (ready : Nat) :
    (p.lexer none ready).settle = .ok (p.lexer none (max ready p.out.length)) := by
  simp [Lexer.settle, Lexer.dropStaleKeys, lexer, bind, Except.bind, pure, Except.pure]

theorem settle_lexer_some (p : Place) {k : SimpleKey} (ready : Nat)
    (h : k.isStale p.cursor.mark = false) :
    (p.lexer (some k) ready).settle =
      .ok (p.lexer (some k) (max ready (min p.out.length k.token))) := by
  simp [Lexer.settle, Lexer.dropStaleKeys, lexer, h, bind, Except.bind, pure, Except.pure]

theorem step_lexer (p : Place) {allowed : Bool} {next : Cursor}
    (hskip : Lexer.skipBlanks false p.allowed false p.cursor.mark p.cursor.rest = (allowed, next))
    (hkey : key.any (·.isStale next.mark) = false) :
    (p.lexer key ready).step =
      match next.rest with
      | [] => ((({ p with cursor := next, allowed } : Place).dedent (some next.mark.column)).lexer
          key ready).streamEnd
      | c :: r => ((({ p with cursor := next, allowed } : Place).dedent
          (some next.mark.column)).lexer key ready).fetch c r := by
  have hkeys : (({ p with cursor := next, allowed } : Place).lexer key ready).dropStaleKeys =
      .ok (({ p with cursor := next, allowed } : Place).lexer key ready) := by
    simp [Lexer.dropStaleKeys, lexer, hkey]
  have hstep := Lexer.step_of_skip (l := p.lexer key ready) rfl hskip hkeys
  rw [hstep]
  simp only [unindent_lexer]
  rfl

theorem dedent_of_le {column : Nat} (h : ∀ i ∈ p.levels.head?, i ≤ column) :
    p.dedent (some column) = p := by
  obtain ⟨cursor, levels, out, allowed⟩ := p
  cases levels with
  | nil => simp [dedent]
  | cons i is =>
    have hi : closes (some column) i = false := by
      simpa [closes] using h i rfl
    simp [dedent, hi]

theorem quotedScalar_lexer {q : Place} {s v : List Char} {next : Cursor}
    (hallowed : q.allowed = false) (hrest : q.cursor.rest = '"' :: s)
    (hrun : Quoted.run false {} (q.cursor.mark.along 1) s = .ok (v, next)) :
    (q.lexer none ready).quotedScalar false =
      .ok (({ q with cursor := next, out := q.out ++ [.scalar v .double] } : Place).lexer none
        ready) := by
  obtain ⟨⟨m, rest⟩, levels, out, allowed⟩ := q
  subst hallowed hrest
  simp only [Lexer.quotedScalar, Lexer.saveKey, lexer, Bool.false_eq_true, if_false, bind,
    Except.bind, List.drop_one, List.tail_cons, hrun]
  simp [Lexer.moveTo, Lexer.add, pure, Except.pure]

theorem saveKey_lexer {q : Place} (hallowed : q.allowed = true) (ready : Nat) :
    ∃ k : SimpleKey, k.token = q.out.length ∧ k.mark = q.cursor.mark ∧
      (q.lexer none ready).saveKey = .ok (q.lexer (some k) ready) := by
  refine ⟨⟨!(q.lexer none ready).inFlow && (q.lexer none ready).indent =
    some q.cursor.mark.column, q.out.length, q.cursor.mark⟩, rfl, rfl, ?_⟩
  have hkey : (q.lexer none ready).keyAllowed = true := hallowed
  rw [Lexer.saveKey, if_pos hkey]
  rfl

theorem plainScalar_lexer {q : Place} {w r : List Char} (hallowed : q.allowed = true)
    (hw : ∀ c ∈ w, isWordChar c = true) (hr : endsWord r = true)
    (hrest : q.cursor.rest = w ++ ':' :: r) (ready : Nat) :
    ∃ k : SimpleKey, k.token = q.out.length ∧ k.mark = q.cursor.mark ∧
      (q.lexer none ready).plainScalar =
        .ok (({ q with
          cursor := ⟨q.cursor.mark.along w.length, ':' :: r⟩
          out := q.out ++ [.scalar w .plain]
          allowed := false } : Place).lexer (some k) ready) := by
  obtain ⟨k, htoken, hmark, hsaved⟩ := saveKey_lexer hallowed ready
  refine ⟨k, htoken, hmark, ?_⟩
  have hrun (least : Nat) : Plain.run false least {} q.cursor.mark q.cursor.rest =
      .ok (w, false, ⟨q.cursor.mark.along w.length, ':' :: r⟩) := by
    rw [hrest]
    exact Plain.run_word hw hr rfl
  rw [Lexer.plainScalar, hsaved]
  simp only [bind, Except.bind, lexer, Lexer.inFlow, pure, Except.pure]
  simp [hrun, Lexer.moveTo, Lexer.add]

def deepened (levels : List Nat) (column : Nat) : List Nat :=
  if levels.head?.all (· < column) then column :: levels else levels

def opening (levels : List Nat) (column : Nat) : List Token :=
  if levels.head?.all (· < column) then [.blockMappingStart] else []

theorem value_lexer {q : Place} {base : List Token} {t : Token} {k : SimpleKey}
    (hout : q.out = base ++ [t]) (hk : k.token = base.length) :
    (q.lexer (some k) ready).value =
      .ok (({ cursor := ⟨q.cursor.mark.along 1, q.cursor.rest.drop 1⟩
              levels := deepened q.levels k.mark.column
              out := base ++ opening q.levels k.mark.column ++ [.key, t, .value]
              allowed := false } : Place).lexer none ready) := by
  obtain ⟨cursor, levels, out, allowed⟩ := q
  subst hout
  have hlater : base.length + 1 + 1 - base.length = 2 := by omega
  have hlevels : levels.head? :: (levels.map some ++ [none]).tail = levels.map some ++ [none] := by
    cases levels <;> rfl
  by_cases h : levels.head?.all (· < k.mark.column) = true
  · simp [Lexer.value, lexer, Lexer.insertAt, Lexer.openBlock, Lexer.inFlow, hk, h, deepened,
      opening, Lexer.pass, Lexer.moveTo, Lexer.add, hlater, hlevels]
  · simp [Lexer.value, lexer, Lexer.insertAt, Lexer.openBlock, Lexer.inFlow, hk, h, deepened,
      opening, Lexer.pass, Lexer.moveTo, Lexer.add]

theorem run_succ {l next settled : Lexer} (fuel : Nat) (running : l.ended = false)
    (hstep : l.step = .ok next) (hsettle : next.settle = .ok settled) :
    Lexer.run (fuel + 1) l = Lexer.run fuel settled := by
  rw [Lexer.run, running, hstep]
  simp [hsettle]

theorem scansTo_value {m : Mark} {v r : List Char} (hv : Verbatim v)
    (hcursor : p.cursor = ⟨m, ' ' :: '"' :: (v ++ '"' :: r)⟩) (hallowed : p.allowed = false)
    (hlevels : ∀ i ∈ p.levels.head?, i ≤ m.column) :
    p.ScansTo { p with
      cursor := ⟨m.along (v.length + 3), r⟩
      out := p.out ++ [.scalar v .double] } := by
  have hskip : Lexer.skipBlanks false p.allowed false p.cursor.mark p.cursor.rest =
      (false, ⟨m.along 1, '"' :: (v ++ '"' :: r)⟩) := by
    simp [hcursor, hallowed, Lexer.skipBlanks, isBreak, Mark.advance, Mark.along]
  have hrun : Quoted.run false {} ((m.along 1).along 1) (v ++ '"' :: r) =
      .ok (v, ⟨m.along (v.length + 3), r⟩) := by
    rw [Quoted.run_verbatim (.inl rfl) (Nat.add_one_ne_zero _) hv]
    simp [Quoted.State.shown, Mark.along]
    omega
  intro ready
  refine ⟨_, 1, by simp [hcursor]; omega, fun fuel => run_succ fuel rfl ?_ (settle_lexer _ ready)⟩
  have hopen : ∀ i ∈ p.levels.head?, i ≤ (m.along 1).column := fun i hi =>
    Nat.le_succ_of_le (hlevels i hi)
  rw [step_lexer p hskip rfl]
  dsimp only
  rw [Lexer.fetch_quote, dedent_of_le (p := ⟨_, p.levels, p.out, false⟩) hopen,
    quotedScalar_lexer rfl rfl hrun, hallowed]

/-- The place of the first character that is no blank, with the blocks closed that end there. -/
def margin (p : Place) (next : Cursor) : Place :=
  ({ p with cursor := next, allowed := true } : Place).dedent (some next.mark.column)

theorem head?_margin (p : Place) (next : Cursor) :
    ∀ i ∈ (p.margin next).levels.head?, i ≤ next.mark.column := by
  intro i hi
  have hhead := List.head?_dropWhile_not (closes (some next.mark.column)) p.levels
  change i ∈ (p.levels.dropWhile (closes (some next.mark.column))).head? at hi
  rw [hi] at hhead
  simpa [closes] using hhead

theorem scansTo_key {m : Mark} {w r : List Char} (hw : IsWord w) (hr : endsWord r = true)
    (hskip : Lexer.skipBlanks false p.allowed false p.cursor.mark p.cursor.rest =
      (true, ⟨m, w ++ ':' :: r⟩)) :
    p.ScansTo
      { cursor := ⟨m.along (w.length + 1), r⟩
        levels := deepened (p.margin ⟨m, w ++ ':' :: r⟩).levels m.column
        out := (p.margin ⟨m, w ++ ':' :: r⟩).out ++
          opening (p.margin ⟨m, w ++ ':' :: r⟩).levels m.column ++
            [.key, .scalar w .plain, .value]
        allowed := false } := by
  have hhead := head?_margin p ⟨m, w ++ ':' :: r⟩
  generalize hq : p.margin ⟨m, w ++ ':' :: r⟩ = q at hhead ⊢
  have hcursor : q.cursor = ⟨m, w ++ ':' :: r⟩ := by rw [← hq]; rfl
  have hallowed : q.allowed = true := by rw [← hq]; rfl
  obtain ⟨c, w', rfl⟩ := List.exists_cons_of_ne_nil hw.nonempty
  have hlength : (c :: w' ++ ':' :: r).length ≤ p.cursor.rest.length := by
    have := Lexer.length_skipBlanks_le false p.allowed false p.cursor.mark p.cursor.rest
    rwa [hskip] at this
  intro ready
  obtain ⟨k, htoken, hmark, hscalar⟩ :=
    plainScalar_lexer hallowed hw.chars hr (by rw [hcursor]) ready
  rw [hcursor] at hmark hscalar
  have hfresh : k.isStale (m.along (c :: w').length) = false := by
    have hshort : w'.length + 1 ≤ SimpleKey.maxLength := hw.short
    rw [SimpleKey.isStale, hmark]
    simp [Mark.along]
    omega
  have hfirst : (p.lexer none ready).step = .ok (lexer ⟨⟨m.along (c :: w').length, ':' :: r⟩,
      q.levels, q.out ++ [.scalar (c :: w') .plain], false⟩ (some k) ready) := by
    rw [step_lexer p hskip rfl]
    dsimp only [List.cons_append]
    rw [Lexer.fetch_word _ _ (hw.chars c List.mem_cons_self)]
    change ((p.margin ⟨m, c :: w' ++ ':' :: r⟩).lexer none ready).plainScalar = _
    rw [hq, hscalar]
  have hsecond (ready : Nat) : (lexer ⟨⟨m.along (c :: w').length, ':' :: r⟩, q.levels,
      q.out ++ [.scalar (c :: w') .plain], false⟩ (some k) ready).step =
        .ok (lexer ⟨⟨m.along ((c :: w').length + 1), r⟩, deepened q.levels m.column,
          q.out ++ opening q.levels m.column ++ [.key, .scalar (c :: w') .plain, .value], false⟩
          none ready) := by
    have hskip' : Lexer.skipBlanks false false false (m.along (c :: w').length) (':' :: r) =
        (false, ⟨m.along (c :: w').length, ':' :: r⟩) := by
      simp [Lexer.skipBlanks, isBreak, byteOrderMark]
    have hopen : ∀ i ∈ q.levels.head?, i ≤ (m.along (c :: w').length).column := fun i hi =>
      Nat.le_add_right_of_le (hhead i hi)
    rw [step_lexer _ hskip' (by simpa using hfresh)]
    dsimp only
    rw [Lexer.fetch_colon _ hr, dedent_of_le (p := ⟨_, q.levels, _, false⟩) hopen,
      value_lexer rfl htoken, hmark]
    simp [Mark.along, Nat.add_assoc]
  have hrun (fuel : Nat) :=
    (run_succ (fuel + 1) rfl hfirst (settle_lexer_some _ ready hfresh)).trans
      (run_succ fuel rfl (hsecond _) (settle_lexer _ _))
  refine ⟨_, 2, ?_, hrun⟩
  simp only [List.length_append, List.length_cons] at hlength ⊢
  omega

end Place

end TracedService.Yaml
