import TracedService.Text.Utf8

/-! Base64: three bytes as four of sixty-four characters. Written texts are padded; in a text that
is read the padding may be left out, white space is passed over, and bits that fill no byte are
lost. -/

namespace TracedService.Text.Base64

open Utf8 (Bytes)

inductive Fault where
  | badCharacter (b : UInt8)
  | earlyPadding
  /-- The last block has a form that no bytes lead to. -/
  | badPadding
  deriving DecidableEq, Repr

namespace Fault

def message : Fault → String
  | badCharacter b => "InvalidCharacter(" ++ toString b ++ ")"
  | earlyPadding => "PrematurePadding"
  | badPadding => "InvalidTrailingPadding"

end Fault

def alphabet : List UInt8 :=
  Utf8.encodeText "ABCDEFGHIJKLMNOPQRSTUVWXYZabcdefghijklmnopqrstuvwxyz0123456789+/"

def pad : UInt8 := 61

def digit (n : Nat) : UInt8 :=
  alphabet.getD n pad

def encode : Bytes → Bytes
  | [] => []
  | [a] => [digit (a.toNat / 4), digit (a.toNat % 4 * 16), pad, pad]
  | [a, b] =>
    [digit (a.toNat / 4), digit (a.toNat % 4 * 16 + b.toNat / 16), digit (b.toNat % 16 * 4), pad]
  | a :: b :: c :: r =>
    digit (a.toNat / 4) :: digit (a.toNat % 4 * 16 + b.toNat / 16) ::
      digit (b.toNat % 16 * 4 + c.toNat / 64) :: digit (c.toNat % 64) :: encode r

def isBlank (b : UInt8) : Bool :=
  b == 32 || (9 ≤ b && b ≤ 13)

def values (s : Bytes) : Except Fault (List (Option Nat)) :=
  (s.filter fun b => !isBlank b).mapM fun b =>
    if b = pad then .ok none
    else match alphabet.idxOf? b with
      | some n => .ok (some n)
      | none => .error (.badCharacter b)

/-- Whole blocks of four become three bytes each; the last block may be short or padded. -/
def decodeValues : List (Option Nat) → Except Fault Bytes
  | [] => .ok []
  | [some a, some b] | [some a, some b, none, none] => .ok [.ofNat (a * 4 + b / 16)]
  | [some a, some b, some c] | [some a, some b, some c, none] =>
    .ok [.ofNat (a * 4 + b / 16), .ofNat (b % 16 * 16 + c / 4)]
  | some a :: some b :: some c :: some d :: r => do
    let rest ← decodeValues r
    return .ofNat (a * 4 + b / 16) :: .ofNat (b % 16 * 16 + c / 4) ::
      .ofNat (c % 4 * 64 + d) :: rest
  | _ :: _ :: _ :: _ :: _ :: _ :: _ :: _ :: _ => .error .earlyPadding
  | _ => .error .badPadding

def decode (s : Bytes) : Except Fault Bytes :=
  (values s).bind decodeValues

end TracedService.Text.Base64
