/-! Blank characters are those with the Unicode property White_Space; trimming removes them from
the ends of a text and touches nothing inside it. -/

namespace TracedService.Text

/-- The characters with the property White_Space. -/
def isBlank (c : Char) : Bool :=
  let n := c.toNat
  (9 ≤ n && n ≤ 13) || n == 0x20 || n == 0x85 || n == 0xA0 || n == 0x1680 ||
    (0x2000 ≤ n && n ≤ 0x200A) || n == 0x2028 || n == 0x2029 || n == 0x202F || n == 0x205F ||
    n == 0x3000

def trimStart (s : List Char) : List Char :=
  s.dropWhile isBlank

def trimEnd (s : List Char) : List Char :=
  (s.reverse.dropWhile isBlank).reverse

def trim (s : List Char) : List Char :=
  trimEnd (trimStart s)

def trimmed (s : String) : String :=
  String.ofList (trim s.toList)

def isBlankText (s : String) : Bool :=
  s.toList.all isBlank

theorem trimStart_eq_nil_iff {s : List Char} : trimStart s = [] ↔ ∀ c ∈ s, isBlank c = true := by
  induction s with
  | nil => simp [trimStart]
  | cons c r ih =>
    by_cases h : isBlank c = true
    · have hr : trimStart (c :: r) = trimStart r := by simp [trimStart, h]
      rw [hr, ih]
      simp [h]
    · simp [trimStart, h]

theorem trim_eq_nil_iff {s : List Char} : trim s = [] ↔ ∀ c ∈ s, isBlank c = true := by
  rw [trim, trimEnd, List.reverse_eq_nil_iff]
  change trimStart (trimStart s).reverse = [] ↔ _
  refine trimStart_eq_nil_iff.trans (Iff.trans ?_ trimStart_eq_nil_iff)
  constructor
  · intro h
    refine Classical.byContradiction fun hne => ?_
    have hhead := List.head?_dropWhile_not isBlank s
    obtain ⟨c, r, hc⟩ := List.exists_cons_of_ne_nil hne
    rw [show s.dropWhile isBlank = trimStart s from rfl, hc] at hhead
    have := h c (by simp [hc])
    simp [this] at hhead
  · intro h
    simp [h]

theorem isBlankText_iff {s : String} : isBlankText s = true ↔ trimmed s = "" := by
  rw [isBlankText, List.all_eq_true, ← trim_eq_nil_iff, trimmed]
  exact ⟨fun h => by rw [h], fun h => String.ofList_injective h⟩

end TracedService.Text
