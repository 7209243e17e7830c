import TracedService.Number.Literal

/-! The grammar of number texts. Main statements: a whole text is read exactly if it is a numeral,
and what is found at the start of a text is the longest numeral there. -/

namespace TracedService.Number

open Text (isDigit lower digitsValue)

inductive Mark : List Char → Bool → Prop
  | none : Mark [] false
  | plus : Mark ['+'] false
  | minus : Mark ['-'] true

/-- Digits with at most one point and at least one digit, those in front of the point and those
behind it. -/
inductive Mantissa : List Char → List Char → List Char → Prop
  | plain (whole : List Char) (digits : ∀ c ∈ whole, isDigit c = true) (full : whole ≠ []) :
      Mantissa whole whole []
  | pointed (whole fraction : List Char) (left : ∀ c ∈ whole, isDigit c = true)
      (right : ∀ c ∈ fraction, isDigit c = true) (full : whole ≠ [] ∨ fraction ≠ []) :
      Mantissa (whole ++ '.' :: fraction) whole fraction

inductive Exponent : List Char → Int → Prop
  | none : Exponent [] 0
  | some (c : Char) (mark ds : List Char) (negative : Bool) (letter : lower c = 'e')
      (marked : Mark mark negative) (digits : ∀ d ∈ ds, isDigit d = true) (full : ds ≠ []) :
      Exponent (c :: (mark ++ ds))
        (if negative then -(digitsValue ds : Int) else digitsValue ds)

inductive Unsigned (negative : Bool) : List Char → Binary64 → Prop
  | infinite (word : List Char)
      (h : word.map lower = "inf".toList ∨ word.map lower = "infinity".toList) :
      Unsigned negative word (.infinite negative)
  | nan (word : List Char) (h : word.map lower = "nan".toList) : Unsigned negative word .nan
  | decimal (m whole fraction u : List Char) (e : Int) (mantissa : Mantissa m whole fraction)
      (exponent : Exponent u e) : Unsigned negative (m ++ u)
        (.ofDecimal negative (digitsValue (whole ++ fraction)) (e - fraction.length))

/-- A text that writes a number. -/
inductive Numeral : List Char → Binary64 → Prop
  | mk (mark s : List Char) (negative : Bool) (x : Binary64) (marked : Mark mark negative)
      (unsigned : Unsigned negative s x) : Numeral (mark ++ s) x

variable {negative : Bool} {x : Binary64} {e : Int} {c : Char}
  {s t m u p rest word whole fraction mark : List Char}

theorem lower_of_isDigit (h : isDigit c = true) : lower c = c := by
  have hcapital : Text.isCapital c = false := by
    simp only [isDigit, Text.isCapital, Bool.and_eq_true, decide_eq_true_eq,
      Bool.and_eq_false_iff, decide_eq_false_iff_not] at h ⊢
    exact .inl fun ha => absurd (Char.le_trans ha h.2) (by decide)
  rw [lower, hcapital]
  rfl

theorem sign_mark (h : Mark mark negative) (hminus : c ≠ '-') (hplus : c ≠ '+') :
    sign (mark ++ c :: s) = (negative, c :: s) := by
  cases h with
  | none =>
    unfold sign
    split
    · simp_all
    · simp_all
    · rfl
  | plus => rfl
  | minus => rfl

theorem exists_mark (s : List Char) : ∃ mark, Mark mark (sign s).1 ∧ s = mark ++ (sign s).2 := by
  unfold sign
  split
  · exact ⟨['-'], .minus, rfl⟩
  · exact ⟨['+'], .plus, rfl⟩
  · exact ⟨[], .none, rfl⟩

theorem dropWord?_eq_some_iff {w : List Char} :
    dropWord? w s = some rest ↔ ∃ p, s = p ++ rest ∧ p.map lower = w := by
  induction w generalizing s with
  | nil => simp [dropWord?, eq_comm]
  | cons d w ih =>
    cases s with
    | nil => simp [dropWord?]
    | cons c s =>
      rw [dropWord?]
      constructor
      · intro h
        split at h
        · rename_i hc
          obtain ⟨p, rfl, hp⟩ := ih.mp h
          exact ⟨c :: p, rfl, by rw [List.map_cons, hc, hp]⟩
        · cases h
      · rintro ⟨p, hs, hp⟩
        cases p with
        | nil => cases hp
        | cons a p =>
          rw [List.cons_append, List.cons.injEq] at hs
          obtain ⟨rfl, rfl⟩ := hs
          rw [List.map_cons, List.cons.injEq] at hp
          rw [if_pos hp.1]
          exact ih.mpr ⟨p, rfl, hp.2⟩

theorem dropWord?_of_head {d : Char} {w : List Char} (h : lower c ≠ d) :
    dropWord? (d :: w) (c :: s) = none :=
  if_neg h

theorem dropWhile_suffix (s : List Char) : s.dropWhile isDigit <:+ s :=
  List.dropWhile_suffix isDigit

theorem Mantissa.head (h : Mantissa m whole fraction) :
    ∃ c r, m = c :: r ∧ (isDigit c = true ∨ c = '.') := by
  cases h with
  | plain whole digits full =>
    obtain ⟨c, r, hm⟩ := List.exists_cons_of_ne_nil full
    exact ⟨c, r, hm, .inl (digits c (by simp [hm]))⟩
  | pointed whole fraction left right full =>
    cases whole with
    | nil => exact ⟨'.', fraction, rfl, .inr rfl⟩
    | cons c r => exact ⟨c, _, rfl, .inl (left c List.mem_cons_self)⟩

/-- No word for a number starts as a mantissa does. -/
theorem Mantissa.lower_head (h : Mantissa m whole fraction) :
    ∃ c r, m = c :: r ∧ lower c ≠ 'i' ∧ lower c ≠ 'n' := by
  obtain ⟨c, r, hm, hc⟩ := h.head
  refine ⟨c, r, hm, ?_⟩
  rcases hc with hc | rfl
  · rw [lower_of_isDigit hc]
    constructor
    · rintro rfl
      exact absurd hc (by decide)
    · rintro rfl
      exact absurd hc (by decide)
  · decide

theorem mantissa_append_of_ends (h : Mantissa m whole fraction)
    (hu : ∀ c ∈ u.head?, isDigit c = false ∧ c ≠ '.') :
    mantissa (m ++ u) = (whole, fraction, u) := by
  have hnone : u.takeWhile isDigit = [] ∧ u.dropWhile isDigit = u := by
    cases u with
    | nil => exact ⟨rfl, rfl⟩
    | cons c r =>
      have hc := (hu c rfl).1
      simp [hc]
  cases h with
  | plain whole digits full =>
    simp only [mantissa, List.takeWhile_append_of_pos digits, List.dropWhile_append_of_pos digits,
      hnone, List.append_nil]
    split
    · rename_i r
      exact absurd rfl (hu '.' rfl).2
    · rfl
  | pointed whole fraction left right full =>
    have hpoint : isDigit '.' = false := by decide
    have hfull : (whole.isEmpty && fraction.isEmpty) = false := by
      rcases full with hne | hne <;> simp [hne]
    simp [mantissa, List.takeWhile_append_of_pos left, List.dropWhile_append_of_pos left, hpoint,
      List.takeWhile_append_of_pos right, List.dropWhile_append_of_pos right, hnone, hfull]

/-- More text may make a mantissa longer, and not shorter. -/
theorem mantissa_append (h : Mantissa m whole fraction) (t : List Char) :
    ((mantissa (m ++ t)).1.isEmpty && (mantissa (m ++ t)).2.1.isEmpty) = false ∧
      (mantissa (m ++ t)).2.2 <:+ t := by
  cases h with
  | plain whole digits full =>
    simp only [mantissa, List.takeWhile_append_of_pos digits, List.dropWhile_append_of_pos digits]
    have hsuffix := dropWhile_suffix t
    split
    · rename_i r hr
      rw [hr] at hsuffix
      simpa [full] using (dropWhile_suffix r).trans ((List.suffix_cons '.' r).trans hsuffix)
    · simpa [full] using hsuffix
  | pointed whole fraction left right full =>
    have hpoint : isDigit '.' = false := by decide
    have hfull : (whole.isEmpty && (fraction ++ t.takeWhile isDigit).isEmpty) = false := by
      rcases full with hne | hne <;> simp [hne]
    simp [mantissa, List.takeWhile_append_of_pos left, List.dropWhile_append_of_pos left, hpoint,
      List.takeWhile_append_of_pos right, List.dropWhile_append_of_pos right, hfull,
      dropWhile_suffix]

theorem exists_mantissa
    (h : ((mantissa s).1.isEmpty && (mantissa s).2.1.isEmpty) = false) :
    ∃ m, Mantissa m (mantissa s).1 (mantissa s).2.1 ∧ s = m ++ (mantissa s).2.2 := by
  have hall (s : List Char) : ∀ c ∈ s.takeWhile isDigit, isDigit c = true :=
    List.all_eq_true.mp List.all_takeWhile
  have hsplit := List.takeWhile_append_dropWhile (p := isDigit) (l := s)
  unfold mantissa at h ⊢
  split at h
  · rename_i r hr
    rw [hr] at hsplit
    simp only at h ⊢
    split at h
    · cases h
    · rename_i hfull
      rw [if_neg hfull]
      simp only [Bool.and_eq_true, List.isEmpty_iff, Classical.not_and_iff_not_or_not] at hfull
      refine ⟨_, .pointed _ _ (hall s) (hall r) hfull, ?_⟩
      rw [List.append_assoc, List.cons_append, List.takeWhile_append_dropWhile, hsplit]
  · rename_i hr
    exact ⟨_, .plain _ (hall s) (by simpa using h), hsplit.symm⟩

theorem Exponent.ends (h : Exponent u e) (ht : u = [] → t = []) :
    ∀ c ∈ (u ++ t).head?, isDigit c = false ∧ c ≠ '.' := by
  cases h with
  | none =>
    rw [ht rfl]
    exact nofun
  | some c mark ds negative letter marked digits full =>
    intro d hd
    cases hd
    constructor
    · refine Bool.eq_false_iff.mpr fun hc => ?_
      rw [lower_of_isDigit hc] at letter
      subst letter
      exact absurd hc (by decide)
    · rintro rfl
      exact absurd letter (by decide)

/-- More text may make an exponent longer, and not shorter. -/
theorem exponent_append (h : Exponent u e) (hfull : u ≠ []) (t : List Char) :
    (exponent (u ++ t)).2 <:+ t ∧ (t = [] → (exponent (u ++ t)).1 = e) := by
  cases h with
  | none => exact absurd rfl hfull
  | some c mark ds negative letter marked digits full =>
    obtain ⟨d, r, rfl⟩ := List.exists_cons_of_ne_nil full
    have hd := digits d List.mem_cons_self
    have hsign : sign (mark ++ d :: r ++ t) = (negative, d :: r ++ t) := by
      rw [List.append_assoc, List.cons_append]
      refine sign_mark marked ?_ ?_
      · rintro rfl
        exact absurd hd (by decide)
      · rintro rfl
        exact absurd hd (by decide)
    rw [List.cons_append, exponent, if_pos letter, hsign]
    simp only [List.takeWhile_append_of_pos digits, List.dropWhile_append_of_pos digits]
    refine ⟨by simpa using dropWhile_suffix t, ?_⟩
    rintro rfl
    simp

theorem exponent_self (h : Exponent u e) : exponent u = (e, []) := by
  by_cases hu : u = []
  · subst hu
    cases h
    rfl
  · obtain ⟨hrest, hvalue⟩ := exponent_append h hu []
    rw [List.append_nil] at hrest hvalue
    exact Prod.ext (hvalue rfl) (List.suffix_nil.mp hrest)

theorem exists_exponent (s : List Char) :
    ∃ u, Exponent u (exponent s).1 ∧ s = u ++ (exponent s).2 := by
  unfold exponent
  split
  · rename_i c r
    split
    · rename_i letter
      obtain ⟨mark, marked, hr⟩ := exists_mark r
      have hsplit := List.takeWhile_append_dropWhile (p := isDigit) (l := (sign r).2)
      by_cases hnone : ((sign r).2.takeWhile isDigit).isEmpty = true
      · simp only [hnone, if_true]
        exact ⟨[], .none, rfl⟩
      · simp only [hnone, Bool.false_eq_true, if_false]
        refine ⟨_, .some c mark _ _ letter marked (List.all_eq_true.mp List.all_takeWhile)
          (by simpa using hnone), ?_⟩
        rw [List.cons_append, List.append_assoc, hsplit, ← hr]
    · exact ⟨[], .none, rfl⟩
  · exact ⟨[], .none, rfl⟩

/-- The longest number without a sign at the start of the text, and the text behind it. -/
def unsigned? (negative : Bool) (s : List Char) : Option (Binary64 × List Char) :=
  match dropWord? "infinity".toList s with
  | some rest => some (.infinite negative, rest)
  | none =>
    match dropWord? "inf".toList s with
    | some rest => some (.infinite negative, rest)
    | none =>
      match dropWord? "nan".toList s with
      | some rest => some (.nan, rest)
      | none =>
        let (whole, fraction, r) := mantissa s
        if whole.isEmpty && fraction.isEmpty then none
        else
          let (e, rest) := exponent r
          some (.ofDecimal negative (digitsValue (whole ++ fraction)) (e - fraction.length), rest)

theorem leading?_eq (s : List Char) : leading? s = unsigned? (sign s).1 (sign s).2 := rfl

/-- What starts with a mantissa starts with none of the words. -/
theorem unsigned?_of_mantissa (h : Mantissa m whole fraction) (t : List Char) :
    unsigned? negative (m ++ t) =
      some (.ofDecimal negative (digitsValue ((mantissa (m ++ t)).1 ++ (mantissa (m ++ t)).2.1))
        ((exponent (mantissa (m ++ t)).2.2).1 - (mantissa (m ++ t)).2.1.length),
        (exponent (mantissa (m ++ t)).2.2).2) := by
  obtain ⟨c, r, hm, hi, hn⟩ := h.lower_head
  have hinfinity : dropWord? "infinity".toList (m ++ t) = none := hm ▸ dropWord?_of_head hi
  have hinf : dropWord? "inf".toList (m ++ t) = none := hm ▸ dropWord?_of_head hi
  have hnan : dropWord? "nan".toList (m ++ t) = none := hm ▸ dropWord?_of_head hn
  simp only [unsigned?, hinfinity, hinf, hnan, (mantissa_append h t).1, Bool.false_eq_true,
    if_false]

/-- What is found in front of `t` ends there or within, and is the number if nothing follows. -/
def Covers (found : Option (Binary64 × List Char)) (t : List Char) (x : Binary64) : Prop :=
  ∃ y rest, found = some (y, rest) ∧ rest <:+ t ∧ (t = [] → y = x)

/-- The short word may be the start of the long one. -/
theorem covers_infinite (h : word.map lower = "inf".toList ∨ word.map lower = "infinity".toList)
    (t : List Char) : Covers (unsigned? negative (word ++ t)) t (.infinite negative) := by
  cases hlong : dropWord? "infinity".toList (word ++ t) with
  | some rest =>
    obtain ⟨q, hq, hword⟩ := dropWord?_eq_some_iff.mp hlong
    refine ⟨.infinite negative, rest, by simp only [unsigned?, hlong], ?_, fun _ => rfl⟩
    have hlength : word.length ≤ q.length := by
      have hmap (r : List Char) : r.length = (r.map lower).length := (List.length_map lower).symm
      rw [hmap word, hmap q, hword]
      rcases h with h | h
      · exact h ▸ (by decide : "inf".toList.length ≤ "infinity".toList.length)
      · exact Nat.le_of_eq (congrArg List.length h)
    have htotal := congrArg List.length hq
    rw [List.length_append, List.length_append] at htotal
    exact List.suffix_of_suffix_length_le (hq ▸ List.suffix_append q rest)
      (List.suffix_append word t) (by omega)
  | none =>
    rcases h with h | h
    · have hinf : dropWord? "inf".toList (word ++ t) = some t :=
        dropWord?_eq_some_iff.mpr ⟨word, rfl, h⟩
      exact ⟨.infinite negative, t, by simp only [unsigned?, hlong, hinf], List.suffix_rfl,
        fun _ => rfl⟩
    · rw [dropWord?_eq_some_iff.mpr ⟨word, rfl, h⟩] at hlong
      cases hlong

theorem covers_nan (h : word.map lower = "nan".toList) (t : List Char) :
    Covers (unsigned? negative (word ++ t)) t .nan := by
  have hnan : dropWord? "nan".toList (word ++ t) = some t :=
    dropWord?_eq_some_iff.mpr ⟨word, rfl, h⟩
  obtain ⟨c, r, rfl, hc, -⟩ : ∃ c r, word = c :: r ∧ lower c = 'n' ∧ r.map lower = ['a', 'n'] :=
    List.map_eq_cons_iff.mp h
  have hother (w : List Char) : dropWord? ('i' :: w) (c :: r ++ t) = none := by
    refine dropWord?_of_head ?_
    rw [hc]
    decide
  have hinfinity : dropWord? "infinity".toList (c :: r ++ t) = none := hother _
  have hinf : dropWord? "inf".toList (c :: r ++ t) = none := hother _
  exact ⟨.nan, t, by simp only [unsigned?, hinfinity, hinf, hnan], List.suffix_rfl, fun _ => rfl⟩

/-- Digits go on where there is no exponent yet, and the exponent goes on where there is one. -/
theorem covers_decimal (h : Mantissa m whole fraction) (hu : Exponent u e) (t : List Char) :
    Covers (unsigned? negative (m ++ u ++ t)) t
      (.ofDecimal negative (digitsValue (whole ++ fraction)) (e - fraction.length)) := by
  rw [List.append_assoc, unsigned?_of_mantissa h]
  refine ⟨_, _, rfl, ?_⟩
  by_cases hnone : u = []
  · subst hnone
    cases hu
    obtain ⟨v, -, hv⟩ := exists_exponent (mantissa (m ++ t)).2.2
    refine ⟨(hv ▸ List.suffix_append v _).trans (mantissa_append h t).2, ?_⟩
    rintro rfl
    rw [List.append_nil, mantissa_append_of_ends h (u := []) nofun]
    rfl
  · have hends := hu.ends (t := t) fun hempty => absurd hempty hnone
    rw [mantissa_append_of_ends h hends]
    obtain ⟨hrest, hvalue⟩ := exponent_append hu hnone t
    refine ⟨hrest, fun ht => ?_⟩
    rw [hvalue ht]

theorem Unsigned.covers (h : Unsigned negative p x) (t : List Char) :
    Covers (unsigned? negative (p ++ t)) t x := by
  cases h with
  | infinite _ h => exact covers_infinite h t
  | nan _ h => exact covers_nan h t
  | decimal m whole fraction u e mantissa exponent => exact covers_decimal mantissa exponent t

theorem exists_unsigned (h : unsigned? negative s = some (x, rest)) :
    ∃ p, Unsigned negative p x ∧ s = p ++ rest := by
  unfold unsigned? at h
  split at h
  · rename_i hword
    cases h
    obtain ⟨p, hs, hp⟩ := dropWord?_eq_some_iff.mp hword
    exact ⟨p, .infinite p (.inr hp), hs⟩
  · split at h
    · rename_i hword
      cases h
      obtain ⟨p, hs, hp⟩ := dropWord?_eq_some_iff.mp hword
      exact ⟨p, .infinite p (.inl hp), hs⟩
    · split at h
      · rename_i hword
        cases h
        obtain ⟨p, hs, hp⟩ := dropWord?_eq_some_iff.mp hword
        exact ⟨p, .nan p hp, hs⟩
      · simp only at h
        split at h
        · cases h
        · rename_i hfull
          cases h
          obtain ⟨m, hm, hs⟩ := exists_mantissa (Bool.eq_false_iff.mpr hfull)
          obtain ⟨u, hu, hr⟩ := exists_exponent (mantissa s).2.2
          exact ⟨m ++ u, .decimal m _ _ u _ hm hu, by rw [List.append_assoc, ← hr, ← hs]⟩

theorem Unsigned.head (h : Unsigned negative p x) : ∃ c r, p = c :: r ∧ c ≠ '-' ∧ c ≠ '+' := by
  have hword {d : Char} {w : List Char} (h : p.map lower = d :: w) (hminus : d ≠ '-')
      (hplus : d ≠ '+') : ∃ c r, p = c :: r ∧ c ≠ '-' ∧ c ≠ '+' := by
    obtain ⟨c, r, hp, rfl, -⟩ := List.map_eq_cons_iff.mp h
    refine ⟨c, r, hp, ?_, ?_⟩
    · rintro rfl
      exact hminus rfl
    · rintro rfl
      exact hplus rfl
  cases h with
  | infinite _ h =>
    rcases h with h | h
    · exact hword h (by decide) (by decide)
    · exact hword h (by decide) (by decide)
  | nan _ h => exact hword h (by decide) (by decide)
  | decimal m whole fraction u e mantissa exponent =>
    obtain ⟨c, r, rfl, hc⟩ := mantissa.head
    refine ⟨c, r ++ u, rfl, ?_, ?_⟩
    · rintro rfl
      exact absurd hc (by decide)
    · rintro rfl
      exact absurd hc (by decide)

/-- What follows a numeral may make it longer, and not shorter. -/
theorem Numeral.covers (h : Numeral p x) (t : List Char) : Covers (leading? (p ++ t)) t x := by
  obtain ⟨mark, s, negative, x, marked, unsigned⟩ := h
  have hcovers := unsigned.covers t
  obtain ⟨c, r, rfl, hminus, hplus⟩ := unsigned.head
  rwa [leading?_eq, List.append_assoc, List.cons_append, sign_mark marked hminus hplus]

theorem exists_numeral (h : leading? s = some (x, rest)) : ∃ p, Numeral p x ∧ s = p ++ rest := by
  rw [leading?_eq] at h
  obtain ⟨p, hp, hs⟩ := exists_unsigned h
  obtain ⟨mark, marked, hmark⟩ := exists_mark s
  exact ⟨mark ++ p, .mk mark p _ x marked hp, by rw [List.append_assoc, ← hs, ← hmark]⟩

theorem unsigned_of_read? (h : read? s = some x) : Unsigned (sign s).1 (sign s).2 x := by
  unfold read? at h
  simp only [Bool.or_eq_true, decide_eq_true_eq] at h
  split at h
  · rename_i hword
    cases h
    exact .infinite _ hword
  · split at h
    · rename_i hword
      cases h
      exact .nan _ hword
    · split at h
      · cases h
      · rename_i hfull
        split at h
        · rename_i hrest
          cases h
          obtain ⟨m, hm, hs⟩ := exists_mantissa (Bool.eq_false_iff.mpr hfull)
          obtain ⟨u, hu, hr⟩ := exists_exponent (mantissa (sign s).2).2.2
          rw [List.isEmpty_iff.mp hrest, List.append_nil] at hr
          rw [hr] at hs
          have hdecimal : Unsigned (sign s).1 (m ++ u) _ := .decimal m _ _ u _ hm hu
          rwa [← hs] at hdecimal
        · cases h

theorem read?_of_unsigned (h : Unsigned (sign s).1 (sign s).2 x) : read? s = some x := by
  unfold read?
  simp only [Bool.or_eq_true, decide_eq_true_eq]
  generalize (sign s).1 = negative, (sign s).2 = r at h ⊢
  cases h with
  | infinite _ word => rw [if_pos word]
  | nan _ word =>
    rw [if_neg, if_pos word]
    rw [word]
    decide
  | decimal m whole fraction u e mantissa exponent =>
    obtain ⟨c, r, hm, hi, hn⟩ := mantissa.lower_head
    have hword {d : Char} {w : List Char} (hd : lower c ≠ d) : (m ++ u).map lower ≠ d :: w := by
      rw [hm]
      exact fun h => hd (List.cons.inj h).1
    have hinf : (m ++ u).map lower ≠ "inf".toList := hword hi
    have hinfinity : (m ++ u).map lower ≠ "infinity".toList := hword hi
    have hnan : (m ++ u).map lower ≠ "nan".toList := hword hn
    have hends := exponent.ends (t := []) fun _ => rfl
    rw [List.append_nil] at hends
    rw [if_neg (not_or.mpr ⟨hinf, hinfinity⟩), if_neg hnan,
      if_neg (Bool.eq_false_iff.mp (mantissa_append mantissa u).1),
      mantissa_append_of_ends mantissa hends, exponent_self exponent]
    rfl

/-- A whole text is read if the grammar has it. -/
theorem read?_eq_some_iff : read? s = some x ↔ Numeral s x := by
  constructor
  · intro h
    obtain ⟨mark, marked, hmark⟩ := exists_mark s
    rw [hmark]
    exact .mk mark _ _ x marked (unsigned_of_read? h)
  · rintro ⟨mark, s, negative, x, marked, unsigned⟩
    refine read?_of_unsigned ?_
    obtain ⟨c, r, rfl, hminus, hplus⟩ := unsigned.head
    rwa [sign_mark marked hminus hplus]

/-- The text starts with a numeral for the number, and with no longer one. -/
structure Longest (s p : List Char) (x : Binary64) : Prop where
  start : p <+: s
  reads : read? p = some x
  longest : ∀ q, q <+: s → (read? q).isSome = true → q.length ≤ p.length

theorem Longest.unique {q : List Char} {y : Binary64} (h : Longest s p x) (h' : Longest s q y) :
    p = q ∧ x = y := by
  have hle := h'.longest p h.start (h.reads ▸ rfl)
  have hge := h.longest q h'.start (h'.reads ▸ rfl)
  have hpq : p = q :=
    (List.prefix_of_prefix_length_le h.start h'.start hle).eq_of_length (Nat.le_antisymm hle hge)
  have hreads := h.reads
  rw [hpq, h'.reads] at hreads
  exact ⟨hpq, (Option.some.inj hreads).symm⟩

/-- Where a numeral stands at the start, as much at least is found there. -/
theorem leading?_of_prefix (hp : p <+: s) (hread : (read? p).isSome = true) :
    ∃ y rest, leading? s = some (y, rest) ∧ p.length + rest.length ≤ s.length := by
  obtain ⟨t, rfl⟩ := hp
  obtain ⟨x, hx⟩ := Option.isSome_iff_exists.mp hread
  obtain ⟨y, rest, hleading, hrest, -⟩ := (read?_eq_some_iff.mp hx).covers t
  refine ⟨y, rest, hleading, ?_⟩
  rw [List.length_append]
  exact Nat.add_le_add_left hrest.length_le _

theorem longest_of_leading? (h : leading? s = some (x, rest)) :
    ∃ p, s = p ++ rest ∧ Longest s p x := by
  obtain ⟨p, hp, hs⟩ := exists_numeral h
  refine ⟨p, hs, ⟨rest, hs.symm⟩, read?_eq_some_iff.mpr hp, ?_⟩
  intro q hq hread
  obtain ⟨y, rest', hleading, hlength⟩ := leading?_of_prefix hq hread
  rw [h] at hleading
  cases hleading
  rw [hs, List.length_append] at hlength
  omega

theorem leading?_eq_some_iff :
    leading? s = some (x, rest) ↔ ∃ p, s = p ++ rest ∧ Longest s p x := by
  refine ⟨longest_of_leading?, ?_⟩
  rintro ⟨p, hs, hlongest⟩
  obtain ⟨y, rest', hleading, -⟩ := leading?_of_prefix hlongest.start (hlongest.reads ▸ rfl)
  obtain ⟨q, hs', hlongest'⟩ := longest_of_leading? hleading
  obtain ⟨rfl, rfl⟩ := hlongest.unique hlongest'
  rw [hleading, List.append_cancel_left (hs.symm.trans hs')]

theorem leading?_eq_none_iff : leading? s = none ↔ ∀ q, q <+: s → read? q = none := by
  constructor
  · intro h q hq
    refine Option.not_isSome_iff_eq_none.mp fun hread => ?_
    obtain ⟨y, rest, hleading, -⟩ := leading?_of_prefix hq hread
    rw [h] at hleading
    cases hleading
  · intro h
    refine Option.eq_none_iff_forall_ne_some.mpr ?_
    rintro ⟨x, rest⟩ hleading
    obtain ⟨p, hs, hlongest⟩ := longest_of_leading? hleading
    cases (h p hlongest.start).symm.trans hlongest.reads

end TracedService.Number
