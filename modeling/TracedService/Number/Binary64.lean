/-! Double-precision numbers as exact integers. A finite number is a count of units, the unit being
the least positive double 2^-1074, so that products with powers of two and comparisons are
statements about natural numbers. -/

namespace TracedService

/-- A double; the sign of zero is kept. -/
inductive Binary64 where
  | nan
  | infinite (negative : Bool)
  | finite (negative : Bool) (units : Nat)
  deriving DecidableEq, Repr

namespace Binary64

@[irreducible] def one : Nat := Nat.pow 2 1074

/-- The first count of units that is no finite double. -/
@[irreducible] def limit : Nat := Nat.pow 2 2098

def roundDiv (num den : Nat) : Nat :=
  let q := num / den
  let r := num % den
  if 2 * r < den then q
  else if den < 2 * r then q + 1
  else if q % 2 = 0 then q else q + 1

/-- The count of units nearest to `num / den` units with at most 53 significant bits. -/
def nearestUnits (num den : Nat) : Nat :=
  let q := num / den
  if q < Nat.pow 2 53 then roundDiv num den
  else
    let step := Nat.pow 2 (q.log2 - 52)
    roundDiv num (den * step) * step

def decimalBound : Int := 400

/-- The double nearest to `digits · 10^exponent`, ties to even, overflow to infinity. -/
def ofDecimal (negative : Bool) (digits : Nat) (exponent : Int) : Binary64 :=
  if digits = 0 then .finite negative 0
  else
    let places : Int := (digits.log2 : Int) / 4
    if exponent < -decimalBound - ((digits.log2 : Int) + 1) then .finite negative 0
    else if decimalBound < places + exponent then .infinite negative
    else
      let units :=
        if 0 ≤ exponent then nearestUnits (digits * Nat.pow 10 exponent.toNat * one) 1
        else nearestUnits (digits * one) (Nat.pow 10 (-exponent).toNat)
      if units < limit then .finite negative units else .infinite negative

def timesUnits (a b : Nat) : Nat :=
  nearestUnits (a * b) one

def divUnits (a b : Nat) : Nat :=
  nearestUnits (a * one) b

def bits : Binary64 → Nat
  | nan => 0x7FF8000000000000
  | infinite negative => 0x7FF0000000000000 + if negative then Nat.pow 2 63 else 0
  | finite negative units =>
    let magnitude :=
      if units < Nat.pow 2 52 then units
      else
        let e := units.log2 - 52
        e * Nat.pow 2 52 + units / Nat.pow 2 e
    magnitude + if negative then Nat.pow 2 63 else 0

/-- The number brought into the range from zero to one. Zero keeps its sign, and what is not a
number stays so. -/
def clampUnit : Binary64 → Binary64
  | nan => nan
  | infinite negative => if negative then .finite false 0 else .finite false one
  | finite negative units =>
    if negative && units != 0 then .finite false 0
    else if one < units then .finite false one
    else .finite negative units

theorem clampUnit_finite (x : Binary64) (h : x ≠ nan) :
    ∃ negative units, x.clampUnit = .finite negative units ∧ units ≤ one := by
  unfold clampUnit
  split
  · exact absurd rfl h
  · split
    · exact ⟨_, _, rfl, Nat.zero_le _⟩
    · exact ⟨_, _, rfl, Nat.le_refl _⟩
  · split
    · exact ⟨_, _, rfl, Nat.zero_le _⟩
    · split
      · exact ⟨_, _, rfl, Nat.le_refl _⟩
      · exact ⟨_, _, rfl, by omega⟩

end Binary64

end TracedService
