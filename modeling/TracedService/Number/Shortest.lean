import TracedService.Number.Binary64

/-! The shortest decimal that reads back as a given double: fewest digits first, then the nearest to
the double. It is written without an exponent and always with a point. -/

namespace TracedService.Binary64

def digitCount (n : Nat) : Nat :=
  (Nat.toDigits 10 n).length

/-- The distance, in units, from a number to its neighbour above. -/
def spacing (units : Nat) : Nat :=
  if units < Nat.pow 2 53 then 1 else Nat.pow 2 (units.log2 - 52)

/-- Ends of the interval of reals that round to a number, in quarters of a unit, and whether the
ends belong to it. -/
def interval (units : Nat) : Nat × Nat × Bool :=
  let step := spacing units
  let isPower := units % Nat.pow 2 units.log2 == 0
  let below := if Nat.pow 2 53 ≤ units && isPower then step else 2 * step
  (4 * units - below, 4 * units + 2 * step, units / step % 2 = 0)

def roundsTo (units digits : Nat) (exponent : Int) : Bool :=
  let (low, high, closed) := interval units
  let num := 4 * digits * one * Nat.pow 10 exponent.toNat
  let den := Nat.pow 10 (-exponent).toNat
  if closed then low * den ≤ num && num ≤ high * den else low * den < num && num < high * den

/-- The nearer of the two decimals around a number on the grid of `10^exponent`, of two that are
equally near the greater, if it reads back. -/
def onGrid? (units : Nat) (exponent : Int) : Option Nat :=
  let num := units * Nat.pow 10 (-exponent).toNat
  let den := one * Nat.pow 10 exponent.toNat
  let floor := num / den
  let near := if 2 * (num % den) < den then [floor, floor + 1] else [floor + 1, floor]
  near.find? fun d => roundsTo units d exponent

def firstGrid? (units : Nat) (exponent : Int) : Nat → Option (Nat × Int)
  | 0 => none
  | count + 1 =>
    match onGrid? units exponent with
    | some d => some (d, exponent)
    | none => firstGrid? units (exponent - 1) count

def leadingExponent (units : Nat) : Int :=
  let whole := units / one
  if whole ≠ 0 then (digitCount whole : Int) - 1
  else
    let scaled := units * Nat.pow 10 330 / one
    (digitCount scaled : Int) - 1 - 330

/-- Digits and exponent of the shortest decimal. The first grid is that of the next power of ten,
which may read back too; seventeen digits are always enough. -/
def shortest (units : Nat) : Nat × Int :=
  if units = 0 then (0, 0)
  else (firstGrid? units (leadingExponent units + 1) 19).getD (0, 0)

def positional (digits : Nat) (exponent : Int) : List Char :=
  let ds := Nat.toDigits 10 digits
  if 0 ≤ exponent then ds ++ List.replicate exponent.toNat '0' ++ ['.', '0']
  else
    let places := (-exponent).toNat
    let padded := List.replicate (places + 1 - ds.length) '0' ++ ds
    padded.take (padded.length - places) ++ '.' :: padded.drop (padded.length - places)

def text : Binary64 → List Char
  | nan => "NaN".toList
  | infinite negative => if negative then "-inf".toList else "inf".toList
  | finite negative units =>
    let (digits, exponent) := shortest units
    (if negative then ['-'] else []) ++ positional digits exponent

/-- Where positions end: the least power of ten that is written in positions, and whether a power
of ten that is not negative carries a sign. -/
structure CompactStyle where
  least : Int
  plusSign : Bool

def plainStyle : CompactStyle := ⟨-4, false⟩

def jsonStyle : CompactStyle := ⟨-5, true⟩

def scientific (style : CompactStyle) (digits : Nat) (exponent : Int) : List Char :=
  let ds := Nat.toDigits 10 digits
  let power := exponent + (ds.length : Int) - 1
  ds.take 1 ++ (if ds.length = 1 then [] else '.' :: ds.drop 1) ++
    'e' :: (if style.plusSign && 0 ≤ power then ['+'] else []) ++ (toString power).toList

def compactText (style : CompactStyle) : Binary64 → List Char
  | finite negative units =>
    let (digits, exponent) := shortest units
    let first := exponent + ((Nat.toDigits 10 digits).length : Int) - 1
    if units = 0 || (style.least ≤ first && first < 16) then text (finite negative units)
    else (if negative then ['-'] else []) ++ scientific style digits exponent
  | x => text x

end TracedService.Binary64
