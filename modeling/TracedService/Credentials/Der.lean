import TracedService.Text.Utf8

/-! Tagged values as bytes: a tag, the length of the content in as few bytes as possible, the
content. -/

namespace TracedService.Der

open Text.Utf8 (Bytes)

def integerTag : UInt8 := 0x02
def octetsTag : UInt8 := 0x04
def sequenceTag : UInt8 := 0x30

def value (bs : Bytes) : Nat :=
  bs.foldl (fun n b => n * 256 + b.toNat) 0

def digits (n : Nat) : Bytes :=
  if n = 0 then [] else digits (n / 256) ++ [.ofNat n]
termination_by n
decreasing_by exact Nat.div_lt_self (by omega) (by decide)

def maxLength : Nat := Nat.pow 2 16

def writeLength (n : Nat) : Bytes :=
  if n < 128 then [.ofNat n]
  else
    let ds := digits n
    .ofNat (128 + ds.length) :: ds

def readLength? : Bytes → Option (Nat × Bytes)
  | [] => none
  | b :: r =>
    if b < 128 then some (b.toNat, r)
    else
      let count := b.toNat - 128
      let n := value (r.take count)
      if n < maxLength && writeLength n = b :: r.take count then some (n, r.drop count) else none

def write (tag : UInt8) (content : Bytes) : Bytes :=
  tag :: writeLength content.length ++ content

/-- The content of the value at the start, which has to have the tag, and the rest. -/
def read? (tag : UInt8) : Bytes → Option (Bytes × Bytes)
  | [] => none
  | t :: r => do
    let (n, r) ← readLength? r
    if t = tag && n ≤ r.length then some (r.take n, r.drop n) else none

/-- A number is kept apart from a negative one by a zero in front of a great first byte. -/
def writeNatural (n : Nat) : Bytes :=
  let ds := digits n
  write integerTag (if ds.head?.all (128 ≤ ·) then 0 :: ds else ds)

/-- A number that is not negative, written as shortly as possible. -/
def readNatural? (bs : Bytes) : Option (Nat × Bytes) := do
  let (content, rest) ← read? integerTag bs
  let n := value content
  if writeNatural n = write integerTag content then some (n, rest) else none

def readNaturals? : Nat → Bytes → Option (List Nat × Bytes)
  | 0, bs => some ([], bs)
  | count + 1, bs => do
    let (n, bs) ← readNatural? bs
    let (ns, bs) ← readNaturals? count bs
    some (n :: ns, bs)

end TracedService.Der
