import TracedService.Text.Ascii
import TracedService.Text.Hex
import TracedService.Text.Occurs
import TracedService.Text.Split

/-! Socket addresses: an IP address of version 4, or one of version 6 in brackets, and a port. An
address is written back in its one canonical form. -/

namespace TracedService

inductive SocketAddress where
  | v4 (octets : List Nat) (port : Nat)
  /-- Eight groups of 16 bits, and the number of a network interface. -/
  | v6 (groups : List Nat) (scope port : Nat)
  deriving DecidableEq, Repr

namespace SocketAddress

/-- A decimal number below `limit` at the start of the text, and the rest. At most `maxDigits`
digits are read; without such a bound zeros in front are allowed. -/
def number? (maxDigits : Option Nat) (limit : Nat) (s : List Char) : Option (Nat × List Char) :=
  let ds := s.takeWhile Text.isDigit
  let n := Text.digitsValue ds
  let tooLong := maxDigits.any fun m => m < ds.length || (1 < ds.length && ds.head? = some '0')
  if ds.isEmpty || tooLong || limit ≤ n then none else some (n, s.drop ds.length)

def octets? (s : List Char) : Option (List Nat × List Char) := do
  let (a, s) ← number? (some 3) 256 s
  let (b, s) ← number? (some 3) 256 (← Text.dropStart? ['.'] s)
  let (c, s) ← number? (some 3) 256 (← Text.dropStart? ['.'] s)
  let (d, s) ← number? (some 3) 256 (← Text.dropStart? ['.'] s)
  some ([a, b, c, d], s)

def group? (s : List Char) : Option (Nat × List Char) := do
  let ds := s.takeWhile fun c => (Text.Hex.value? c).isSome
  if 4 < ds.length then none
  else
    let n ← Text.Hex.readFrom? 0 ds
    if ds.isEmpty then none else some (n, s.drop ds.length)

/-- Up to `count` groups between colons; the last two may be written as an address of version 4,
which ends the list and is told. `first` says that no colon stands in front. -/
def groups (first : Bool) : Nat → List Char → List Nat × Bool × List Char
  | 0, s => ([], false, s)
  | count + 1, s =>
    match if first then some s else Text.dropStart? [':'] s with
    | none => ([], false, s)
    | some r =>
      match if count = 0 then none else octets? r with
      | some (os, rest) => (pairs os, true, rest)
      | none =>
        match group? r with
        | none => ([], false, s)
        | some (g, rest) =>
          let (gs, embedded, rest) := groups false count rest
          (g :: gs, embedded, rest)
where
  pairs : List Nat → List Nat
    | a :: b :: r => (a * 256 + b) :: pairs r
    | _ => []

/-- Eight groups, where a double colon stands for as many zeros as are missing. An address of
version 4 stands at the end only. -/
def address6? (s : List Char) : Option (List Nat × List Char) :=
  let (head, embedded, r) := groups true 8 s
  if head.length = 8 then some (head, r)
  else if embedded then none
  else
    match Text.dropStart? [':', ':'] r with
    | none => none
    | some r =>
      let (back, _, r) := groups true (8 - (head.length + 1)) r
      some (head ++ List.replicate (8 - head.length - back.length) 0 ++ back, r)

def port? (s : List Char) : Option Nat := do
  let r ← Text.dropStart? [':'] s
  match ← number? none 65536 r with
  | (n, []) => some n
  | _ => none

def scope? (s : List Char) : Option (Nat × List Char) :=
  match s with
  | '%' :: r => number? none (Nat.pow 2 32) r
  | _ => some (0, s)

def readV4? (s : List Char) : Option SocketAddress := do
  let (os, r) ← octets? s
  some (.v4 os (← port? r))

def readV6? (s : List Char) : Option SocketAddress := do
  let r ← Text.dropStart? ['['] s
  let (gs, r) ← address6? r
  let (scope, r) ← scope? r
  let r ← Text.dropStart? [']'] r
  some (.v6 gs scope (← port? r))

def read? (s : String) : Option SocketAddress :=
  match readV4? s.toList with
  | some a => some a
  | none => readV6? s.toList

def zeroRun (gs : List Nat) : Nat × Nat :=
  let runs := (List.range gs.length).map fun i => (i, ((gs.drop i).takeWhile (· == 0)).length)
  runs.foldl (fun best r => if best.2 < r.2 then r else best) (0, 0)

def joined (gs : List Nat) : String :=
  ":".intercalate (gs.map fun g => String.ofList (Nat.toDigits 16 g))

def compressed (gs : List Nat) : String :=
  let (start, count) := zeroRun gs
  if 1 < count then joined (gs.take start) ++ "::" ++ joined (gs.drop (start + count))
  else joined gs

def groupsText (gs : List Nat) : String :=
  match gs with
  | [0, 0, 0, 0, 0, 0xFFFF, a, b] =>
    "::ffff:" ++ ".".intercalate ([a / 256, a % 256, b / 256, b % 256].map toString)
  | _ => compressed gs

def text : SocketAddress → String
  | v4 os port => ".".intercalate (os.map toString) ++ ":" ++ toString port
  | v6 gs scope port =>
    "[" ++ groupsText gs ++ (if scope = 0 then "" else "%" ++ toString scope) ++ "]:" ++
      toString port

end SocketAddress

end TracedService
