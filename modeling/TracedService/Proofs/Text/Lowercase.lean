import TracedService.Proofs.Text.Codes
import TracedService.Text.Lowercase

/-! Lower case and ASCII. Letters past ASCII stay past ASCII in lower case, in whole or in part; the
one exception is the sign of the kelvin, which becomes a small k. So a word of ASCII without that
letter is the lower case of those texts only that write it in ASCII. -/

namespace TracedService.Text

variable {c d : Char} {s word before after : List Char}

theorem isAscii_lower (c : Char) : isAscii (lower c) = isAscii c := by
  cases h : isAscii c with
  | true => exact forall_isAscii (P := fun c => isAscii (lower c) = true) (by decide +kernel) h
  | false => rw [lower_of_isAscii_eq_false h, h]

/-- The small letters of a row are characters past ASCII. -/
def CapitalRow.Foreign (r : CapitalRow) : Prop :=
  128 ≤ r.small ∧ (r.smallOf r.last < 0xD800 ∨ 0xE000 ≤ r.small ∧ r.smallOf r.last < 0x110000)

instance (r : CapitalRow) : Decidable r.Foreign :=
  inferInstanceAs (Decidable (_ ∧ _))

/-- The row of the sign of the kelvin. -/
def kelvinRow : CapitalRow :=
  ⟨0x212A, 0x212A, 1, 0x6B⟩

theorem foreign_of_mem_capitalRows : ∀ r ∈ capitalRows, r = kelvinRow ∨ r.Foreign := by
  decide +kernel

theorem CapitalRow.between_of_has {r : CapitalRow} {n : Nat} (h : r.has n = true) :
    r.first ≤ n ∧ n ≤ r.last := by
  simp only [has, Bool.and_eq_true, decide_eq_true_eq] at h
  exact h.1

theorem CapitalRow.Foreign.isAscii_eq_false {r : CapitalRow} {n : Nat} (h : r.Foreign)
    (hn : r.has n = true) : isAscii (Char.ofNat (r.smallOf n)) = false := by
  have hbetween := between_of_has hn
  unfold Foreign smallOf at h
  have hvalid : (r.smallOf n).isValidChar := by
    unfold Nat.isValidChar smallOf
    omega
  have hcode : (Char.ofNat (r.smallOf n)).toNat = r.smallOf n := by
    rw [Char.ofNat, dif_pos hvalid]
    rfl
  rw [isAscii, hcode, smallOf, decide_eq_false_iff_not]
  omega

theorem eq_of_kelvinRow_has {n : Nat} (h : kelvinRow.has n = true) : n = 0x212A :=
  have hbetween := CapitalRow.between_of_has h
  Nat.le_antisymm hbetween.2 hbetween.1

theorem smallLettersAt_of_isAscii (h : isAscii c = true) :
    smallLettersAt before c after = [lower c] := by
  have hsigma : c ≠ 'Σ' := by
    rintro rfl
    cases h
  rw [smallLettersAt, if_neg hsigma, smallLetters, if_pos h]

theorem isAscii_smallSigma : isAscii (smallSigma before after) = false := by
  unfold smallSigma
  split <;> rfl

/-- A character past ASCII leaves something past ASCII, or a small k. -/
theorem exists_foreign_of_smallLettersAt (before after : List Char) (h : isAscii c = false) :
    ∃ d ∈ smallLettersAt before c after, isAscii d = false ∨ d = 'k' := by
  unfold smallLettersAt
  split
  · exact ⟨_, List.mem_singleton_self _, .inl isAscii_smallSigma⟩
  rw [smallLetters, if_neg (ne_true_of_eq_false h)]
  split
  · exact ⟨'\u0307', by simp, .inl rfl⟩
  split
  · next r hr =>
    have hhas : r.has c.toNat = true := by simpa using List.find?_some hr
    refine ⟨_, List.mem_singleton_self _, ?_⟩
    rcases foreign_of_mem_capitalRows r (List.mem_of_find?_eq_some hr) with rfl | hforeign
    · rw [eq_of_kelvinRow_has hhas]
      exact .inr rfl
    · exact .inl (hforeign.isAscii_eq_false hhas)
  · exact ⟨c, List.mem_singleton_self _, .inl h⟩

/-- Words of ASCII that no character past ASCII has a part in. -/
def Plain (word : List Char) : Prop :=
  ∀ c ∈ word, isAscii c = true ∧ c ≠ 'k'

instance (word : List Char) : Decidable (Plain word) :=
  List.decidableBAll _ word

/-- Behind any text: a plain word is reached from texts that differ from it by the case of ASCII
letters. -/
theorem lowercaseFrom_eq_iff (hword : Plain word) :
    lowercaseFrom before s = word ↔ s.map lower = word := by
  induction s generalizing before word with
  | nil => rfl
  | cons c r ih =>
    rw [lowercaseFrom, List.map_cons]
    cases hc : isAscii c with
    | true =>
      rw [smallLettersAt_of_isAscii hc, List.singleton_append]
      cases word with
      | nil => simp
      | cons d word =>
        have htail : Plain word := fun e he => hword e (List.mem_cons_of_mem _ he)
        rw [List.cons.injEq, List.cons.injEq, ih htail]
    | false =>
      constructor
      · rintro rfl
        obtain ⟨d, hd, hforeign⟩ := exists_foreign_of_smallLettersAt before r hc
        obtain ⟨hascii, hk⟩ := hword d (List.mem_append_left _ hd)
        rcases hforeign with hforeign | hforeign
        · cases hascii.symm.trans hforeign
        · exact absurd hforeign hk
      · rintro rfl
        have hascii := (hword (lower c) List.mem_cons_self).1
        rw [isAscii_lower, hc] at hascii
        cases hascii

theorem lowercase_eq_iff {s word : String} (hword : Plain word.toList) :
    lowercase s = word ↔ lowered s = word := by
  rw [lowercase, lowered, ← String.toList_inj, ← String.toList_inj, String.toList_ofList,
    String.toList_ofList]
  exact lowercaseFrom_eq_iff hword

-- A small k is not plain: the sign of the kelvin is no letter of ASCII.
example : lowercase "o\u212A" = "ok" ∧ lowered "o\u212A" ≠ "ok" := by decide +kernel

/-- What is ASCII in small letters is ASCII as it stands. -/
theorem isAscii_of_lowered {s : String} (h : ∀ c ∈ (lowered s).toList, isAscii c = true) :
    ∀ c ∈ s.toList, isAscii c = true := by
  intro c hc
  rw [← isAscii_lower]
  refine h (lower c) ?_
  rw [lowered, String.toList_ofList]
  exact List.mem_map_of_mem hc

end TracedService.Text
