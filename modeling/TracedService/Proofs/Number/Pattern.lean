import Mathlib.Data.List.DropRight
import TracedService.Proofs.Number.Numeral

/-! Regular patterns, matched at the start of a text. Of all matches the preferred one is found: the
first alternative goes before the second, and more repetitions go before fewer. Main statement: the
pattern of numbers finds what the longest numeral takes. -/

namespace TracedService

namespace Text

inductive Regular where
  | empty
  | char (p : Char → Bool)
  | next (a b : Regular)
  | either (a b : Regular)
  | many (p : Char → Bool)

namespace Regular

variable {α : Type}

/-- As many characters as there are, or else as many as leave a rest that can be used. -/
def repeated (p : Char → Bool) (use : List Char → Option α) : List Char → Option α
  | [] => use []
  | c :: s => (if p c then repeated p use s else none).or (use (c :: s))

/-- What is made of the rest behind the most preferred match whose rest can be used. -/
def find : Regular → (List Char → Option α) → List Char → Option α
  | empty, use, s => use s
  | char _, _, [] => none
  | char p, use, c :: s => if p c then use s else none
  | next a b, use, s => a.find (b.find use) s
  | either a b, use, s => (a.find use s).or (b.find use s)
  | many p, use, s => repeated p use s

/-- The text behind the preferred match. -/
def rest? (a : Regular) (s : List Char) : Option (List Char) :=
  a.find some s

def optional (a : Regular) : Regular :=
  either a empty

def letter (c : Char) : Regular :=
  char (lower · == c)

def word (w : List Char) : Regular :=
  w.foldr (fun c a => next (letter c) a) empty

variable {use : List Char → Option α} {s : List Char}

theorem find_many {p : Char → Bool} (h : (use (s.dropWhile p)).isSome = true) :
    (many p).find use s = use (s.dropWhile p) := by
  change repeated p use s = _
  induction s with
  | nil => rfl
  | cons c s ih =>
    rw [repeated]
    by_cases hc : p c = true
    · rw [List.dropWhile_cons_of_pos hc] at h ⊢
      rw [if_pos hc, ih h]
      exact Option.or_of_isSome h
    · rw [List.dropWhile_cons_of_neg hc, if_neg hc]
      exact Option.none_or

end Regular

end Text

namespace Number

open Text (Regular isDigit lower)
open Text.Regular (find rest? optional letter word find_many)

namespace Pattern

def sign : Regular :=
  optional (.char fun c => c == '+' || c == '-')

def digits : Regular :=
  .next (.char isDigit) (.many isDigit)

def point : Regular :=
  .char (· == '.')

def fraction : Regular :=
  .next (optional point) (.many isDigit)

def mantissa : Regular :=
  .either (.next digits fraction) (.next point digits)

def exponent : Regular :=
  optional (.next (letter 'e') (.next sign digits))

def unsigned : Regular :=
  .either (.next (word "inf".toList) (optional (word "inity".toList)))
    (.either (word "nan".toList) (.next mantissa exponent))

end Pattern

/-- A sign that may be left out, then a word for a number that is not finite or not a number, or
digits with a fraction and an exponent that may be left out. -/
def pattern : Regular :=
  .next Pattern.sign Pattern.unsigned

variable {α : Type} {use : List Char → Option α} {s : List Char} {negative : Bool}

theorem dropWord?_append (v w s : List Char) :
    dropWord? (v ++ w) s = (dropWord? v s).bind (dropWord? w) := by
  induction v generalizing s with
  | nil => rfl
  | cons c v ih =>
    cases s with
    | nil => rfl
    | cons d s =>
      rw [List.cons_append, dropWord?, dropWord?]
      split
      · exact ih s
      · rfl

theorem find_word (w : List Char) : (word w).find use s = (dropWord? w s).bind use := by
  induction w generalizing s with
  | nil => rfl
  | cons c w ih =>
    cases s with
    | nil => rfl
    | cons d s =>
      change (if lower d == c then (word w).find use s else none) = _
      rw [dropWord?]
      by_cases hd : lower d = c
      · rw [if_pos (beq_iff_eq.mpr hd), if_pos hd, ih]
      · rw [if_neg (mt beq_iff_eq.mp hd), if_neg hd]
        rfl

theorem find_sign (h : ∀ c r, (c = '+' ∨ c = '-') → use (c :: r) = none) :
    Pattern.sign.find use s = use (sign s).2 := by
  cases s with
  | nil => rfl
  | cons c r =>
    change (if c == '+' || c == '-' then use r else none).or (use (c :: r)) = _
    by_cases hplus : c = '+'
    · subst hplus
      rw [h '+' r (.inl rfl), Option.or_none]
      rfl
    · by_cases hminus : c = '-'
      · subst hminus
        rw [h '-' r (.inr rfl), Option.or_none]
        rfl
      · rw [if_neg (by simp [hplus, hminus]), Option.none_or,
          show sign (c :: r) = (false, c :: r) from sign_mark .none hminus hplus]

theorem find_digits (h : ∀ s, (use s).isSome = true) : Pattern.digits.find use s =
    if (s.takeWhile isDigit).isEmpty then none else use (s.dropWhile isDigit) := by
  cases s with
  | nil => rfl
  | cons c r =>
    change (if isDigit c then (Regular.many isDigit).find use r else none) = _
    by_cases hc : isDigit c = true
    · rw [if_pos hc, find_many (h _), List.takeWhile_cons_of_pos hc, List.dropWhile_cons_of_pos hc]
      rfl
    · rw [if_neg hc, List.takeWhile_cons_of_neg hc]
      rfl

theorem find_exponent (h : ∀ s, (use s).isSome = true) :
    Pattern.exponent.find use s = use (exponent s).2 := by
  cases s with
  | nil => rfl
  | cons c r =>
    change (if lower c == 'e' then Pattern.sign.find (Pattern.digits.find use) r else none).or
      (use (c :: r)) = _
    rw [exponent]
    by_cases hc : lower c = 'e'
    · rw [if_pos (beq_iff_eq.mpr hc), if_pos hc, find_sign, find_digits h]
      · simp only
        split
        · exact Option.none_or
        · exact Option.or_of_isSome (h _)
      · intro d r hd
        rw [find_digits h]
        rcases hd with rfl | rfl <;> rfl
    · rw [if_neg (mt beq_iff_eq.mp hc), if_neg hc]
      exact Option.none_or

theorem find_point_of_ne (h : ∀ r, s = '.' :: r → False) : Pattern.point.find use s = none := by
  cases s with
  | nil => rfl
  | cons c r =>
    refine if_neg fun hc => ?_
    exact h r (by rw [beq_iff_eq.mp hc])

theorem find_fraction (h : ∀ s, (use s).isSome = true) : Pattern.fraction.find use s =
    use (match s with
      | '.' :: r => r.dropWhile isDigit
      | s => s.dropWhile isDigit) := by
  have hmany (r : List Char) : (Regular.many isDigit).find use r = use (r.dropWhile isDigit) :=
    find_many (h _)
  change (Pattern.point.find ((Regular.many isDigit).find use) s).or
    ((Regular.many isDigit).find use s) = _
  split
  · rename_i r
    rw [show Pattern.point.find ((Regular.many isDigit).find use) ('.' :: r) = _ from hmany r]
    exact Option.or_of_isSome (h _)
  · rename_i hpoint
    rw [find_point_of_ne hpoint, hmany]
    exact Option.none_or

/-- Digits at the start belong to the first alternative, and only a point at the start needs digits
behind it. -/
theorem find_mantissa (h : ∀ s, (use s).isSome = true) : Pattern.mantissa.find use s =
    if (mantissa s).1.isEmpty && (mantissa s).2.1.isEmpty then none
    else use (mantissa s).2.2 := by
  have htotal (r : List Char) : (Pattern.fraction.find use r).isSome = true := by
    rw [find_fraction h]
    exact h _
  change (Pattern.digits.find (Pattern.fraction.find use) s).or
    (Pattern.point.find (Pattern.digits.find use) s) = _
  rw [find_digits htotal, mantissa]
  by_cases hnone : (s.takeWhile isDigit).isEmpty = true
  · have hdrop : s.dropWhile isDigit = s := by
      have hsplit := List.takeWhile_append_dropWhile (p := isDigit) (l := s)
      rwa [List.isEmpty_iff.mp hnone, List.nil_append] at hsplit
    rw [if_pos hnone, Option.none_or, hdrop]
    simp only [hnone, Bool.true_and]
    split
    · rename_i r
      change Pattern.digits.find use r = _
      rw [find_digits h]
      cases hdigits : (r.takeWhile isDigit).isEmpty <;> simp [hdigits, hnone]
    · rename_i hpoint
      rw [find_point_of_ne hpoint]
      simp [hnone]
  · rw [if_neg hnone, Option.or_of_isSome (htotal _), find_fraction h]
    have hagain := List.dropWhile_idempotent isDigit s
    generalize s.dropWhile isDigit = d at hagain
    simp only [hnone, Bool.false_and, Bool.false_eq_true, if_false]
    split
    · simp [hnone]
    · simp [hnone, hagain]

/-- `infinity` begins with `inf` and is preferred to it. -/
theorem rest?_unsigned (negative : Bool) (s : List Char) :
    Pattern.unsigned.rest? s = (unsigned? negative s).map (·.2) := by
  have hword : Pattern.unsigned.rest? s =
      ((dropWord? "inf".toList s).bind
        fun r => ((dropWord? "inity".toList r).bind some).or (some r)).or
          (((dropWord? "nan".toList s).bind some).or
            (Pattern.mantissa.find (Pattern.exponent.find some) s)) := by
    rw [← find_word, ← find_word]
    have hinity : (optional (word "inity".toList)).find some = fun r =>
        ((dropWord? "inity".toList r).bind some).or (some r) :=
      funext fun r => congrArg (Option.or · (some r)) (find_word _)
    rw [← hinity]
    rfl
  have hinfinity : dropWord? "infinity".toList s =
      (dropWord? "inf".toList s).bind (dropWord? "inity".toList) :=
    dropWord?_append "inf".toList "inity".toList s
  rw [hword, find_mantissa fun s => by rw [find_exponent fun _ => rfl]; rfl,
    find_exponent fun _ => rfl, unsigned?, hinfinity]
  cases hinf : dropWord? "inf".toList s with
  | some r =>
    simp only [Option.bind_some]
    cases dropWord? "inity".toList r with
    | none => rfl
    | some rest => rfl
  | none =>
    cases hnan : dropWord? "nan".toList s with
    | some r => rfl
    | none =>
      simp only [Option.bind_none, Option.none_or]
      split
      · rfl
      · rfl

theorem rest?_pattern (s : List Char) : pattern.rest? s = (leading? s).map (·.2) := by
  rw [leading?_eq, ← rest?_unsigned]
  refine find_sign ?_
  intro c r hc
  rw [show Pattern.unsigned.find some (c :: r) = _ from rest?_unsigned false (c :: r)]
  refine Option.map_eq_none_iff.mpr (Option.eq_none_iff_forall_ne_some.mpr ?_)
  rintro ⟨x, rest⟩ h
  obtain ⟨p, hp, hs⟩ := exists_unsigned h
  obtain ⟨d, q, rfl, hminus, hplus⟩ := hp.head
  obtain ⟨rfl, -⟩ := List.cons.inj hs
  rcases hc with rfl | rfl
  · exact hplus rfl
  · exact hminus rfl

end Number

end TracedService
