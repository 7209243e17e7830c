/-! UTF-8 over lists of bytes. `decode?` accepts exactly the shortest forms of scalar values;
`decodeLossy` puts U+FFFD for every maximal broken piece. -/

namespace TracedService.Text.Utf8

abbrev Bytes := List UInt8

/-- One to four bytes, the shortest form of the character. -/
def encodeChar (c : Char) : Bytes :=
  String.utf8EncodeChar c

def encode (s : List Char) : Bytes :=
  s.flatMap encodeChar

def encodeText (s : String) : Bytes :=
  encode s.toList

def length (s : List Char) : Nat :=
  s.foldr (fun c n => c.utf8Size + n) 0

structure Lead where
  extra : Nat
  low : UInt8
  high : UInt8
  bits : Nat

/-- The ranges exclude long forms, surrogates and values past U+10FFFF. -/
def lead? (b : UInt8) : Option Lead :=
  if b ≤ 0x7F then some ⟨0, 0x80, 0xBF, b.toNat⟩
  else if b < 0xC2 then none
  else if b ≤ 0xDF then some ⟨1, 0x80, 0xBF, b.toNat - 0xC0⟩
  else if b == 0xE0 then some ⟨2, 0xA0, 0xBF, 0⟩
  else if b == 0xED then some ⟨2, 0x80, 0x9F, 0xD⟩
  else if b ≤ 0xEF then some ⟨2, 0x80, 0xBF, b.toNat - 0xE0⟩
  else if b == 0xF0 then some ⟨3, 0x90, 0xBF, 0⟩
  else if b ≤ 0xF3 then some ⟨3, 0x80, 0xBF, b.toNat - 0xF0⟩
  else if b == 0xF4 then some ⟨3, 0x80, 0x8F, 4⟩
  else none

def tail : Nat → UInt8 → UInt8 → Nat → Bytes → Option Nat × Bytes
  | 0, _, _, acc, bs => (some acc, bs)
  | _ + 1, _, _, _, [] => (none, [])
  | n + 1, low, high, acc, b :: bs =>
    if low ≤ b && b ≤ high then tail n 0x80 0xBF (acc * 64 + (b.toNat - 0x80)) bs
    else (none, b :: bs)

theorem length_tail_le (n : Nat) (low high : UInt8) (acc : Nat) (bs : Bytes) :
    (tail n low high acc bs).2.length ≤ bs.length := by
  induction n generalizing low high acc bs with
  | zero => simp [tail]
  | succ n ih =>
    cases bs with
    | nil => simp [tail]
    | cons b bs =>
      simp only [tail]
      split
      · exact Nat.le_succ_of_le (ih ..)
      · exact Nat.le_refl _

/-- Reads one character; `none` stands for a broken piece. The rest is what follows the piece. -/
def next (b : UInt8) (bs : Bytes) : Option Char × Bytes :=
  match lead? b with
  | none => (none, bs)
  | some l =>
    match tail l.extra l.low l.high l.bits bs with
    | (some n, rest) => (some (Char.ofNat n), rest)
    | (none, rest) => (none, rest)

theorem length_next_le (b : UInt8) (bs : Bytes) : (next b bs).2.length ≤ bs.length := by
  unfold next
  split
  · exact Nat.le_refl _
  · rename_i l _
    have h := length_tail_le l.extra l.low l.high l.bits bs
    split <;> simp_all

def pieces : Bytes → List (Option Char)
  | [] => []
  | b :: bs => (next b bs).1 :: pieces (next b bs).2
termination_by bs => bs.length
decreasing_by
  have := length_next_le b bs
  simp only [List.length_cons]
  omega

def decode? (bs : Bytes) : Option (List Char) :=
  (pieces bs).mapM id

def decodeText? (bs : Bytes) : Option String :=
  (decode? bs).map String.ofList

/-- Broken pieces become U+FFFD. -/
def decodeLossy (bs : Bytes) : String :=
  String.ofList ((pieces bs).map (·.getD '\uFFFD'))

end TracedService.Text.Utf8
