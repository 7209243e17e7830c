/-! Hexadecimal numbers: written in small letters with leading zeros up to a width, read with an
optional plus sign in either letter case. -/

namespace TracedService.Text.Hex

def digit (n : Nat) : Char :=
  if n < 10 then Char.ofNat ('0'.toNat + n) else Char.ofNat ('a'.toNat + (n - 10))

def padded : Nat → Nat → List Char
  | 0, _ => []
  | width + 1, n => padded width (n / 16) ++ [digit (n % 16)]

def value? (c : Char) : Option Nat :=
  if '0' ≤ c && c ≤ '9' then some (c.toNat - '0'.toNat)
  else if 'a' ≤ c && c ≤ 'f' then some (c.toNat - 'a'.toNat + 10)
  else if 'A' ≤ c && c ≤ 'F' then some (c.toNat - 'A'.toNat + 10)
  else none

/-- The number that the digits write after `acc`; `none` at anything but a digit. -/
def readFrom? : Nat → List Char → Option Nat
  | acc, [] => some acc
  | acc, c :: r => (value? c).bind fun d => readFrom? (acc * 16 + d) r

def read? (limit : Nat) (s : List Char) : Option Nat :=
  let ds := match s with
    | '+' :: r => r
    | _ => s
  if ds.isEmpty then none else (readFrom? 0 ds).filter (· < limit)

end TracedService.Text.Hex
