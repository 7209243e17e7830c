import TracedService.Net.DomainCharacter
import TracedService.Net.SocketAddress
import TracedService.Text.Hidden
import TracedService.Text.Percent
import TracedService.Text.Punycode

/-! Hosts of web addresses: a name, or an address of either version, which may be spelled in many
ways and is written in one. -/

namespace TracedService

inductive HostFault where
  | empty
  | badDomain
  | badAddress4
  | badAddress6
  | badCharacter
  deriving DecidableEq, Repr

namespace HostFault

def message : HostFault → String
  | empty => "empty host"
  | badDomain => "invalid international domain name"
  | badAddress4 => "invalid IPv4 address"
  | badAddress6 => "invalid IPv6 address"
  | badCharacter => "invalid domain character"

end HostFault

inductive Host where
  | name (text : List Char)
  | address4 (n : Nat)
  | address6 (groups : List Nat)
  deriving DecidableEq, Repr

namespace Host

/-- One part of an address of version 4: hexadecimal behind `0x`, octal behind another zero, else
decimal. -/
def part? (s : List Char) : Option Nat :=
  match s with
  | [] => none
  | '0' :: 'x' :: r | '0' :: 'X' :: r => Text.Hex.readFrom? 0 r
  | '0' :: c :: r =>
    if (c :: r).all fun d => '0' ≤ d && d ≤ '7' then
      some ((c :: r).foldl (fun n d => n * 8 + Text.digitValue d) 0)
    else none
  | _ => if s.all Text.isDigit then some (Text.digitsValue s) else none

def parts (s : List Char) : List (List Char) :=
  Text.splitTerminated '.' s

/-- A name whose last part is a number has to be an address. -/
def endsInNumber (s : List Char) : Bool :=
  match (parts s).getLast? with
  | some last => (!last.isEmpty && last.all Text.isDigit) || (part? last).isSome
  | none => false

/-- At most four numbers, of which the last fills the bytes that are left. -/
def address4? (s : List Char) : Option Nat := do
  let numbers ← (parts s).mapM part?
  let last ← numbers.getLast?
  let front := numbers.dropLast
  if 3 < front.length || front.any (255 < ·) || Nat.pow 256 (4 - front.length) ≤ last then none
  else some (front.foldl (· * 256 + ·) 0 * Nat.pow 256 (4 - front.length) + last)

def isForbidden (c : Char) : Bool :=
  c.toNat ≤ 32 || c.toNat = 127 || "%#/:<>?@[\\]^|".toList.contains c

def isRightToLeft (c : Char) : Bool :=
  [(0x590, 0x8FF), (0xFB1D, 0xFDFF), (0xFE70, 0xFEFF), (0x10800, 0x10FFF), (0x1E800, 0x1EFFF)].any
    fun (first, last) => first ≤ c.toNat && c.toNat ≤ last

/-- A label past ASCII. It does not begin with a mark that belongs to a letter before it, and
letters of the two directions of writing do not mix. -/
def isInternational (label : List Char) : Bool :=
  (label.all fun c => Text.isAscii c || DomainCharacter.isPlain c) &&
    !(label.head?.any fun c => !Text.isAscii c && Text.isHidden c) &&
    (!label.any isRightToLeft ||
      (label.head?.any isRightToLeft && !label.any Text.isLetter))

def encodedMark : List Char :=
  "xn--".toList

/-- A label in ASCII. One that is marked as encoded has to stand for an international label. -/
def label? (s : List Char) : Option (List Char) :=
  let s := s.map Text.lower
  if !s.all Text.isAscii then
    if isInternational s && !Text.startsWith encodedMark s then
      some (encodedMark ++ Text.Punycode.encode s)
    else none
  else
    match Text.dropStart? encodedMark s with
    | none => some s
    | some code => do
      let label ← Text.Punycode.decode? code
      if label.all Text.isAscii || !isInternational label then none else some s

def domain? (s : List Char) : Option (List Char) := do
  let s ← Text.Percent.decode? s
  if s.any isForbidden then none
  else some (Text.joinWith '.' (← (Text.splitOn '.' s).mapM label?))

def inBrackets? (s : List Char) : Option (Except HostFault Host) :=
  match s with
  | '[' :: r =>
    match r.getLast?, SocketAddress.address6? r.dropLast with
    | some ']', some (groups, []) => some (.ok (.address6 groups))
    | _, _ => some (.error .badAddress6)
  | _ => none

def read (s : List Char) : Except HostFault Host :=
  match inBrackets? s with
  | some h => h
  | none =>
    match domain? s with
    | none => .error .badDomain
    | some [] => .error .empty
    | some domain =>
      if endsInNumber domain then
        match address4? domain with
        | some n => .ok (.address4 n)
        | none => .error .badAddress4
      else .ok (.name domain)

def isPrintable (c : Char) : Bool :=
  32 ≤ c.toNat && c.toNat < 127

def readOpaque (s : List Char) : Except HostFault Host :=
  match inBrackets? s with
  | some h => h
  | none =>
    if s.any fun c => [0, 9, 10, 13, 32].contains c.toNat || "#/:<>?@[\\]^|".toList.contains c then
      .error .badCharacter
    else .ok (.name (Text.Percent.encode isPrintable s))

def text : Host → List Char
  | name s => s
  | address4 n =>
    let part (place : Nat) : String := toString (n / Nat.pow 256 place % 256)
    (".".intercalate ([3, 2, 1, 0].map part)).toList
  | address6 groups => '[' :: (SocketAddress.compressed groups).toList ++ [']']

end Host

end TracedService
