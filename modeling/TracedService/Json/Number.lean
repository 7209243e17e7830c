import TracedService.Number.Shortest
import TracedService.Text.Ascii

/-! Numbers of JSON texts. Digits are gathered into 64 bits, further ones only count, and a power of
ten is applied afterwards: a number with a point or a power may so miss the nearest double. -/

namespace TracedService.Json

inductive Number where
  | integer (negative : Bool) (n : Nat)
  | float (x : Binary64)
  deriving DecidableEq, Repr

namespace Number

/-- Adds digits to a number as long as it stays below `2 ^ 64`, and counts those that it took. -/
def gather (n : Nat) : List Char → Nat × Nat
  | [] => (n, 0)
  | c :: r =>
    let m := n * 10 + Text.digitValue c
    if m < Nat.pow 2 64 then
      let (total, count) := gather m r
      (total, count + 1)
    else (n, 0)

def maxPower : Nat := 308

def powerUnits (power : Nat) : Nat :=
  Binary64.nearestUnits (Nat.pow 10 power * Binary64.one) 1

/-- Divides a count of units by a power of ten, the greatest powers first. -/
def lowered (units power : Nat) : Nat :=
  if power ≤ maxPower then Binary64.divUnits units (powerUnits power)
  else if units = 0 then 0
  else lowered (Binary64.divUnits units (powerUnits maxPower)) (power - maxPower)
termination_by power
decreasing_by
  have : maxPower = 308 := rfl
  omega

def scaled? (n : Nat) (power : Int) : Option Nat :=
  let units := Binary64.nearestUnits (n * Binary64.one) 1
  match power with
  | .negSucc p => some (lowered units (p + 1))
  | .ofNat p =>
    if p ≤ maxPower then
      some (Binary64.timesUnits units (powerUnits p)) |>.filter fun u => u < Binary64.limit
    else if units = 0 then some 0 else none

def maxWritten : Nat := Nat.pow 2 31 - 1

def ofParts? (negative : Bool) (whole : List Char) (fraction : Option (List Char))
    (power : Option (Bool × List Char)) : Option Number :=
  let (n, taken) := gather 0 whole
  let left := whole.length - taken
  let isWhole := fraction.isNone && power.isNone && left = 0
  if isWhole && (!negative || (n ≤ Nat.pow 2 63 && n ≠ 0)) then
    some (.integer negative n)
  else
    let (n, places) := gather n (fraction.getD [])
    let start : Int := left - places
    let units? := match power with
      | none => scaled? n start
      | some (minus, digits) =>
        let e := Text.digitsValue digits
        if maxWritten < e then (if n = 0 || minus then some 0 else none)
        else scaled? n (if minus then start - e else start + e)
    units?.map fun units => .float (.finite negative units)

def described : Number → String
  | integer negative n => "integer \x60" ++ (if negative then "-" else "") ++ toString n ++ "\x60"
  | float x =>
    "floating point \x60" ++ String.ofList (x.compactText Binary64.jsonStyle) ++ "\x60"

end Number

end TracedService.Json
