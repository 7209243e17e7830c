import TracedService.Text.Hex
import TracedService.Text.Utf8

/-! Percent encoding: a byte that may not stand for itself is written as a percent sign and two
hexadecimal digits. A percent sign without two digits behind it stands for itself. -/

namespace TracedService.Text.Percent

open Utf8 (Bytes)

/-- Bytes of a text in which every percent triplet counts as one byte. -/
def bytes : List Char → Bytes
  | '%' :: a :: b :: r =>
    match Hex.value? a, Hex.value? b with
    | some x, some y => UInt8.ofNat (x * 16 + y) :: bytes r
    | _, _ => Utf8.encodeChar '%' ++ bytes (a :: b :: r)
  | c :: r => Utf8.encodeChar c ++ bytes r
  | [] => []

def decode? (s : List Char) : Option (List Char) :=
  Utf8.decode? (bytes s)

def capitalDigit (n : Nat) : Char :=
  if n < 10 then Char.ofNat ('0'.toNat + n) else Char.ofNat ('A'.toNat + (n - 10))

def triplet (b : UInt8) : List Char :=
  ['%', capitalDigit (b.toNat / 16), capitalDigit (b.toNat % 16)]

/-- Escapes the bytes of every character that `plain` does not let through. -/
def encode (plain : Char → Bool) (s : List Char) : List Char :=
  s.flatMap fun c => if plain c then [c] else (Utf8.encodeChar c).flatMap triplet

end TracedService.Text.Percent
