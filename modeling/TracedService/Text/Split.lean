/-! Cutting a text at a separator and joining the pieces again. -/

namespace TracedService.Text

def splitOn (sep : Char) : List Char → List (List Char)
  | [] => [[]]
  | c :: r =>
    if c = sep then [] :: splitOn sep r
    else
      match splitOn sep r with
      | [] => [[c]]
      | p :: ps => (c :: p) :: ps

/-- The pieces, where one separator at the very end closes the last piece and opens none. -/
def splitTerminated (sep : Char) (s : List Char) : List (List Char) :=
  let ps := splitOn sep s
  if ps.getLast? = some [] then ps.dropLast else ps

def joinWith (sep : Char) : List (List Char) → List Char
  | [] => []
  | [p] => p
  | p :: ps => p ++ sep :: joinWith sep ps

def cutFirst? (sep : Char) : List Char → Option (List Char × List Char)
  | [] => none
  | c :: r =>
    if c = sep then some ([], r)
    else (cutFirst? sep r).map fun (a, b) => (c :: a, b)

def cutLast? (sep : Char) (s : List Char) : Option (List Char × List Char) :=
  (cutFirst? sep s.reverse).map fun (a, b) => (b.reverse, a.reverse)

def lastPiece (sep : Char) (s : List Char) : List Char :=
  (s.reverse.takeWhile (· != sep)).reverse

theorem splitOn_ne_nil (sep : Char) (s : List Char) : splitOn sep s ≠ [] := by
  cases s with
  | nil => simp [splitOn]
  | cons c r =>
    simp only [splitOn]
    split
    · simp
    · split <;> simp

theorem joinWith_splitOn (sep : Char) (s : List Char) : joinWith sep (splitOn sep s) = s := by
  induction s with
  | nil => rfl
  | cons c r ih =>
    have hne := splitOn_ne_nil sep r
    simp only [splitOn]
    split
    · rename_i h
      cases hs : splitOn sep r with
      | nil => exact absurd hs hne
      | cons p ps => rw [hs] at ih; simp [joinWith, ih, h]
    · split
      · rename_i hs
        exact absurd hs hne
      · rename_i p ps hs
        rw [hs] at ih
        cases ps with
        | nil => simpa [joinWith] using ih
        | cons q qs => simpa [joinWith] using ih

end TracedService.Text
