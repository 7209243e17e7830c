import TracedService.Number.Binary64

/-! How alike two words are: the share of characters that they have in common nearby, lessened by
the half of those that stand in another order. -/

namespace TracedService.Text

def freePlace? (word : List Char) (used : List Nat) (c : Char) (start stop : Nat) : Option Nat :=
  (List.range word.length).find? fun i =>
    start ≤ i && i < stop && !used.contains i && word[i]? = some c

/-- Places of the first word and the places of the second that they are paired with, in order of the
first word. A pair is at most `reach` places apart. -/
def pairs (a b : List Char) (reach : Nat) : List (Nat × Nat) :=
  (List.range a.length).foldl (fun found i =>
    match (a[i]?).bind fun c => freePlace? b (found.map (·.2)) c (i - reach) (i + reach + 1) with
    | some j => found ++ [(i, j)]
    | none => found) []

def reach (a b : List Char) : Nat :=
  max a.length b.length / 2 - 1

def misplaced (b : List Char) (a : List Char) (ps : List (Nat × Nat)) : Nat :=
  let first := ps.filterMap fun p => a[p.1]?
  let second := (List.range b.length).filterMap fun j =>
    if ps.any (·.2 == j) then b[j]? else none
  ((first.zip second).filter fun (x, y) => x != y).length

/-- Similarity as a count of units: the mean of three shares, each of them, their sum and the mean
rounded to a double. It is one for equal words, and zero for words without a common character. -/
def similarity (a b : List Char) : Nat :=
  let share (n m : Nat) : Nat := Binary64.nearestUnits (n * Binary64.one) m
  let sum (x y : Nat) : Nat := Binary64.nearestUnits (x + y) 1
  if a.isEmpty && b.isEmpty then Binary64.one
  else
    let ps := pairs a b (reach a b)
    let m := ps.length
    if m = 0 then 0
    else
      let inOrder := m - misplaced b a ps / 2
      Binary64.nearestUnits
        (sum (sum (share m a.length) (share m b.length)) (share inOrder m)) 3

def isSimilar (s : Nat) : Bool :=
  Binary64.nearestUnits (7 * Binary64.one) 10 < s

end TracedService.Text
