import TracedService.Credentials.Der
import TracedService.Credentials.Pem

/-! Private keys of service accounts: RSA keys of two primes with everything that is kept for fast
signing, as they are read from the form in which they are stored. -/

namespace TracedService

open Text.Utf8 (Bytes)

structure RsaKey where
  modulus : Nat
  exponent : Nat
  secret : Nat
  first : Nat
  second : Nat
  firstSecret : Nat
  secondSecret : Nat
  coefficient : Nat
  deriving DecidableEq, Repr

namespace RsaKey

def bits (n : Nat) : Nat :=
  if n = 0 then 0 else n.log2 + 1

def usualExponent : Nat := 65537

/-- Primes are as long as half of the modulus, by whole blocks of bits. Whether they are primes is
not looked at. -/
def isPrimeSized (k : RsaKey) (p : Nat) : Bool :=
  p % 2 = 1 && bits p = (bits k.modulus + 1) / 2 && bits p % 512 = 0

def isUsable (k : RsaKey) : Bool :=
  let half := (bits k.modulus + 1) / 2
  2041 ≤ bits k.modulus && bits k.modulus ≤ 4096 && k.modulus % 2 = 1 &&
    k.exponent % 2 = 1 && usualExponent ≤ k.exponent && k.exponent < Nat.pow 2 33 &&
    k.isPrimeSized k.first && k.isPrimeSized k.second && k.first * k.second = k.modulus &&
    half < bits k.secret && k.secret < k.modulus && k.secret % 2 = 1 &&
    k.firstSecret % 2 = 1 && k.firstSecret < k.first &&
    k.secondSecret % 2 = 1 && k.secondSecret < k.second &&
    k.coefficient < k.first && k.coefficient * k.second % k.first = 1

def algorithm : Bytes :=
  Der.write Der.sequenceTag
    [0x06, 0x09, 0x2A, 0x86, 0x48, 0x86, 0xF7, 0x0D, 0x01, 0x01, 0x01, 0x05, 0x00]

def attributesTag : UInt8 := 0xA0

def ofBytes? (bs : Bytes) : Option RsaKey := do
  let (outer, []) ← Der.read? Der.sequenceTag bs | none
  let (0, outer) ← Der.readNatural? outer | none
  let (name, outer) ← Der.read? Der.sequenceTag outer
  let (inner, after) ← Der.read? Der.octetsTag outer
  let after := match Der.read? attributesTag after with
    | some (_, r) => r
    | none => after
  let (inner, []) ← Der.read? Der.sequenceTag inner | none
  let ([0, n, e, d, p, q, dp, dq, c], []) ← Der.readNaturals? 9 inner | none
  if after.isEmpty && Der.write Der.sequenceTag name = algorithm then
    some ⟨n, e, d, p, q, dp, dq, c⟩
  else none

def label : Bytes := Text.Utf8.encodeText "PRIVATE KEY"

end RsaKey

end TracedService
