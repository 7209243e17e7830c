import TracedService.Text.Ascii
import TracedService.Text.Split

/-! Punycode: characters past ASCII as a run of letters and digits. The ASCII characters of a text
stand in front of the last dash; what follows it is a list of numbers in a mixed base, each of which
says how many steps of a counter over places and code points lie before the next insertion. -/

namespace TracedService.Text.Punycode

def base : Nat := 36

def threshold (k bias : Nat) : Nat :=
  if k ≤ bias + 1 then 1 else if bias + 26 ≤ k then 26 else k - bias

def reduce (delta k : Nat) : Nat × Nat :=
  if 455 < delta then reduce (delta / (base - 1)) (k + base) else (delta, k)
termination_by delta
decreasing_by exact Nat.div_lt_self (by omega) (by decide)

/-- The bias after a number, from its size and the length of the text it led to. -/
def adapt (delta length : Nat) (first : Bool) : Nat :=
  let delta := if first then delta / 700 else delta / 2
  let (rest, k) := reduce (delta + delta / length) 0
  k + base * rest / (rest + 38)

def digit? (c : Char) : Option Nat :=
  if isSmall c then some (c.toNat - 'a'.toNat)
  else if isDigit c then some (digitValue c + 26)
  else none

def digit (n : Nat) : Char :=
  if n < 26 then Char.ofNat ('a'.toNat + n) else Char.ofNat ('0'.toNat + (n - 26))

/-- The text so far, the code point that is counted, and the number that is being read: its value so
far on top of the place of the last insertion, the weight of the next digit and its place. -/
structure Scan where
  text : List Char
  point : Nat := 128
  bias : Nat := 72
  place : Nat := 0
  value : Nat := 0
  weight : Nat := 1
  k : Nat := base

def limit : Nat := Nat.pow 2 32

def step (a : Scan) (c : Char) : Option Scan := do
  let d ← digit? c
  let value := a.value + d * a.weight
  if limit ≤ value then none
  let t := threshold a.k a.bias
  if d < t then
    let length := a.text.length + 1
    let point := a.point + value / length
    let place := value % length
    if !point.isValidChar then none
    some { text := a.text.take place ++ Char.ofNat point :: a.text.drop place
           point, bias := adapt (value - a.place) length (a.place = 0)
           place := place + 1, value := place + 1 }
  else if limit ≤ a.weight * (base - t) then none
  else some { a with value, weight := a.weight * (base - t), k := a.k + base }

def decode? (s : List Char) : Option (List Char) := do
  let (front, digits) := match cutLast? '-' s with
    | some ([], _) | none => ([], s)
    | some cut => cut
  if !front.all isAscii then none
  let a ← digits.foldlM step { text := front }
  if a.k = base then some a.text else none

theorem threshold_pos (k bias : Nat) : 0 < threshold k bias := by
  unfold threshold
  split
  · exact Nat.one_pos
  · split <;> omega

def digits (bias n k : Nat) : List Char :=
  let t := threshold k bias
  if n < t then [digit n]
  else digit (t + (n - t) % (base - t)) :: digits bias ((n - t) / (base - t)) (k + base)
termination_by n
decreasing_by
  have ht := threshold_pos k bias
  have hdiv := Nat.div_le_self (n - threshold k bias) (base - threshold k bias)
  omega

structure Output where
  text : List Char
  count : Nat
  delta : Nat := 0
  bias : Nat := 72

def pass (ascii point : Nat) (o : Output) (c : Char) : Output :=
  if c.toNat < point then { o with delta := o.delta + 1 }
  else if c.toNat = point then
    { text := o.text ++ digits o.bias o.delta base
      count := o.count + 1
      bias := adapt o.delta (o.count + 1) (o.count = ascii) }
  else o

def encode (s : List Char) : List Char :=
  let front := s.filter isAscii
  let points := (((s.filter fun c => !isAscii c).map Char.toNat).mergeSort).eraseDups
  let start : Output := ⟨if front.isEmpty then [] else front ++ ['-'], front.length, 0, 72⟩
  let (o, _) := points.foldl
    (fun (o, last) point =>
      let o := { o with delta := o.delta + (point - last) * (o.count + 1) }
      let o := s.foldl (pass front.length point) o
      ({ o with delta := o.delta + 1 }, point + 1))
    (start, 128)
  o.text

end TracedService.Text.Punycode
