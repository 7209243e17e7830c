import TracedService.Proofs.Number.Pattern
import TracedService.Proofs.Number.Units
import TracedService.Sampling.Policy

/-! What counts in a rate text. Main statement: `reading_of_rate`, the policy is that of the longest
number at the start. -/

namespace TracedService

namespace Text

variable {s p : List Char}

/-- What begins a text without blanks in front has none in front either. -/
theorem trimStart_of_prefix (h : p <+: trimStart s) : trimStart p = p := by
  cases p with
  | nil => rfl
  | cons c r =>
    obtain ⟨t, ht⟩ := h
    have hhead := List.head?_dropWhile_not isBlank s
    rw [show s.dropWhile isBlank = c :: r ++ t from ht.symm, List.cons_append,
      List.head?_cons] at hhead
    exact List.dropWhile_cons_of_neg (Bool.eq_false_iff.mp hhead)

end Text

namespace SamplingPolicy

open Number
open Binary64 (clampUnits)

variable {rate : String} {p : List Char} {x : Binary64}

def rateText (rate : String) : List Char :=
  Text.trimStart rate.toList

/-- How a rate text is read. -/
structure Reading (rate : String) : Prop where
  /-- What the pattern takes is a number, and the longest one. -/
  fits : ∀ rest, pattern.rest? (rateText rate) = some rest ↔
    ∃ p x, rateText rate = p ++ rest ∧ Longest (rateText rate) p x
  number : ∀ x, leadingNumber? rate = some x ↔ ∃ p, Longest (rateText rate) p x
  /-- What stands behind the number changes nothing. -/
  alone : ∀ p x, Longest (rateText rate) p x →
    leadingNumber? (String.ofList p) = read? p ∧ (read (String.ofList p)).1 = (read rate).1
  always : (read rate).1 = .alwaysOn ↔
    rate = "" ∨ (∀ q, q <+: rateText rate → q ≠ [] → read? q = none) ∨
      ∃ p, Longest (rateText rate) p .nan
  /-- Every other number is one to clamp, the infinities among them. -/
  share : ∀ p x, Longest (rateText rate) p x → x ≠ .nan →
    (read rate).1 = .parentRatio x.clampUnit ∧
      ∃ v, x.units? = some v ∧ x.clampUnit.units? = some (clampUnits v)
  silent : rate = "" → (read rate).2 = []
  told : rate ≠ "" → ∃ n, (read rate).2 = [n] ∧
    (n.event.level = .warn ↔ (read rate).1 = .alwaysOn) ∧
    (n.event.level = .info ↔ (read rate).1 ≠ .alwaysOn)

theorem leadingNumber?_eq_some_iff :
    leadingNumber? rate = some x ↔ ∃ p, Longest (rateText rate) p x := by
  rw [leadingNumber?, Option.map_eq_some_iff]
  constructor
  · rintro ⟨⟨y, rest⟩, hleading, rfl⟩
    obtain ⟨p, -, hlongest⟩ := leading?_eq_some_iff.mp hleading
    exact ⟨p, hlongest⟩
  · rintro ⟨p, hlongest⟩
    obtain ⟨rest, hrest⟩ := hlongest.start
    exact ⟨(x, rest), leading?_eq_some_iff.mpr ⟨p, hrest.symm, hlongest⟩, rfl⟩

theorem leadingNumber?_eq_none_iff : leadingNumber? rate = none ↔
    ∀ q, q <+: rateText rate → q ≠ [] → read? q = none := by
  rw [leadingNumber?, Option.map_eq_none_iff]
  refine leading?_eq_none_iff.trans ⟨fun h q hq _ => h q hq, fun h q hq => ?_⟩
  cases q with
  | nil => rfl
  | cons c r => exact h _ hq (List.cons_ne_nil c r)

/-- The number alone is read as the text that it begins. -/
theorem longest_alone (h : Longest (rateText rate) p x) :
    Longest (rateText (String.ofList p)) p x := by
  have htext : rateText (String.ofList p) = p := by
    rw [rateText, String.toList_ofList]
    exact Text.trimStart_of_prefix h.start
  rw [htext]
  exact ⟨List.prefix_rfl, h.reads, fun q hq _ => hq.length_le⟩

theorem ne_empty_of_longest (h : Longest (rateText rate) p x) : rate ≠ "" := by
  rintro rfl
  have hp : p = [] := List.prefix_nil.mp h.start
  have hread := h.reads
  rw [hp] at hread
  cases hread

def ofNumber : Option Binary64 → SamplingPolicy
  | none | some .nan => alwaysOn
  | some x => parentRatio x.clampUnit

theorem ofNumber_of_ne (h : x ≠ .nan) : ofNumber (some x) = parentRatio x.clampUnit := by
  cases x with
  | nan => exact absurd rfl h
  | infinite negative => rfl
  | finite negative units => rfl

theorem ofNumber_eq_alwaysOn_iff {found : Option Binary64} :
    ofNumber found = alwaysOn ↔ found = none ∨ found = some .nan := by
  unfold ofNumber
  split <;> simp_all

theorem read_eq_ofNumber (h : rate ≠ "") :
    (read rate).1 = ofNumber (leadingNumber? rate) := by
  have hempty : rate.isEmpty = false := by simpa using h
  rw [read, hempty]
  simp only [Bool.false_eq_true, if_false]
  split
  · rename_i hnumber
    rw [hnumber]
    rfl
  · rename_i hnumber
    rw [hnumber]
    rfl
  · rename_i hne hnumber
    rw [hnumber, ofNumber_of_ne hne]

theorem read_of_longest (h : Longest (rateText rate) p x) : (read rate).1 = ofNumber (some x) := by
  rw [read_eq_ofNumber (ne_empty_of_longest h), leadingNumber?_eq_some_iff.mpr ⟨p, h⟩]

theorem read_eq_alwaysOn_iff : (read rate).1 = .alwaysOn ↔
    rate = "" ∨ (∀ q, q <+: rateText rate → q ≠ [] → read? q = none) ∨
      ∃ p, Longest (rateText rate) p .nan := by
  by_cases hrate : rate = ""
  · subst hrate
    exact iff_of_true rfl (.inl rfl)
  · rw [read_eq_ofNumber hrate, ofNumber_eq_alwaysOn_iff, leadingNumber?_eq_none_iff,
      leadingNumber?_eq_some_iff]
    exact ⟨.inr, fun h => h.resolve_left hrate⟩

/-- Every text but the empty one is told of once, and as a warning if the number does not count. -/
theorem read_told (h : rate ≠ "") : ∃ n, (read rate).2 = [n] ∧
    (n.event.level = .warn ↔ (read rate).1 = .alwaysOn) ∧
    (n.event.level = .info ↔ (read rate).1 ≠ .alwaysOn) := by
  have hempty : rate.isEmpty = false := by simpa using h
  rw [read, hempty]
  simp only [Bool.false_eq_true, if_false]
  split
  · exact ⟨_, rfl, by simp [Notice.event, Notice.level]⟩
  · exact ⟨_, rfl, by simp [Notice.event, Notice.level]⟩
  · exact ⟨_, rfl, by simp [Notice.event, Notice.level]⟩

theorem units?_of_ne_nan (h : x ≠ .nan) : ∃ v, x.units? = some v := by
  cases x with
  | nan => exact absurd rfl h
  | infinite negative => cases negative <;> exact ⟨_, rfl⟩
  | finite negative units => cases negative <;> exact ⟨_, rfl⟩

/-- Of a rate text exactly the longest number at its start counts, brought into the range from zero
to one, and all but the empty text is told of once. -/
theorem reading_of_rate (rate : String) : Reading rate where
  fits rest := by
    rw [rest?_pattern, Option.map_eq_some_iff]
    constructor
    · rintro ⟨⟨x, rest⟩, hleading, rfl⟩
      obtain ⟨p, hp⟩ := leading?_eq_some_iff.mp hleading
      exact ⟨p, x, hp⟩
    · rintro ⟨p, x, hp⟩
      exact ⟨(x, rest), leading?_eq_some_iff.mpr ⟨p, hp⟩, rfl⟩
  number x := leadingNumber?_eq_some_iff
  alone p x hlongest := by
    have halone := longest_alone hlongest
    constructor
    · rw [leadingNumber?_eq_some_iff.mpr ⟨p, halone⟩, hlongest.reads]
    · rw [read_of_longest halone, read_of_longest hlongest]
  always := read_eq_alwaysOn_iff
  share p x hlongest hx := by
    obtain ⟨v, hv⟩ := units?_of_ne_nan hx
    refine ⟨(read_of_longest hlongest).trans (ofNumber_of_ne hx), v, hv, ?_⟩
    rw [Binary64.units?_clampUnit, hv]
    rfl
  silent := by
    rintro rfl
    rfl
  told := read_told

end SamplingPolicy

end TracedService
