/-! Prefixes and occurrences of one text in another. -/

namespace TracedService.Text

/-- The rest of the text behind a given start. -/
def dropStart? : List Char → List Char → Option (List Char)
  | [], s => some s
  | _ :: _, [] => none
  | p :: ps, c :: s => if p = c then dropStart? ps s else none

def startsWith (start s : List Char) : Bool :=
  (dropStart? start s).isSome

def occurs (word : List Char) : List Char → Bool
  | [] => word.isEmpty
  | c :: s => startsWith word (c :: s) || occurs word s

variable {word start s : List Char}

theorem dropStart?_eq_some_iff {rest : List Char} :
    dropStart? start s = some rest ↔ s = start ++ rest := by
  induction start generalizing s with
  | nil => simp [dropStart?, eq_comm]
  | cons p ps ih =>
    cases s with
    | nil => simp [dropStart?]
    | cons c s =>
      by_cases h : p = c
      · simp [dropStart?, h, ih]
      · simp [dropStart?, h, Ne.symm h]

theorem startsWith_iff : startsWith start s = true ↔ start <+: s := by
  rw [startsWith, Option.isSome_iff_exists]
  exact exists_congr fun rest => dropStart?_eq_some_iff.trans eq_comm

theorem occurs_iff : occurs word s = true ↔ word <:+: s := by
  induction s with
  | nil => simp [occurs]
  | cons c s ih => rw [occurs, Bool.or_eq_true, startsWith_iff, ih, List.infix_cons_iff]

end TracedService.Text
