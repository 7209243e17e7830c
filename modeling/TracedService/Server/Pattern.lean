import TracedService.Text.Split

/-! Patterns of routes. Braces enclose a parameter, which stands for one path segment or its end,
or, with an asterisk, for all that remains of the path; doubled braces stand for themselves. Nothing
at all fills a parameter only where the pattern goes on behind it. -/

namespace TracedService.Server

inductive Piece where
  | literal (c : Char)
  | segment (name : List Char)
  | remainder (name : List Char)
  deriving DecidableEq, Repr

abbrev Pattern := List Piece

namespace Pattern

def name? : List Char → Option (List Char × List Char)
  | '\x7d' :: '\x7d' :: r => (name? r).map fun (n, rest) => ('\x7d' :: n, rest)
  | '\x7d' :: r => some ([], r)
  | '\x7b' :: '\x7b' :: r => (name? r).map fun (n, rest) => ('\x7b' :: n, rest)
  | c :: r =>
    if c = '*' || c = '/' then none else (name? r).map fun (n, rest) => (c :: n, rest)
  | [] => none

/-- The name of a parameter for a segment. What stands first in it is not looked at, unless it is a
closing brace. -/
def segmentName? : List Char → Option (List Char × List Char)
  | '\x7b' :: '\x7b' :: r => (name? r).map fun (n, rest) => ('\x7b' :: n, rest)
  | c :: r => if c = '\x7d' then none else (name? r).map fun (n, rest) => (c :: n, rest)
  | [] => none

/-- Reads a pattern; `fuel` is at least the length of the text. A parameter has a name and fills the
rest of its segment. -/
def readFrom : Nat → List Char → Option Pattern
  | _, [] => some []
  | 0, _ => none
  | fuel + 1, '\x7b' :: '\x7b' :: r => (readFrom fuel r).map (.literal '\x7b' :: ·)
  | fuel + 1, '\x7d' :: '\x7d' :: r => (readFrom fuel r).map (.literal '\x7d' :: ·)
  | _, '\x7d' :: _ => none
  | _, '\x7b' :: '*' :: r =>
    match name? r with
    | some (n, []) => if n.isEmpty then none else some [.remainder n]
    | _ => none
  | fuel + 1, '\x7b' :: r =>
    match segmentName? r with
    | some (n, rest) =>
      if rest.head?.any (· != '/') then none else (readFrom fuel rest).map (.segment n :: ·)
    | none => none
  | fuel + 1, c :: r => (readFrom fuel r).map (.literal c :: ·)

def hasForeignMark (path : List Char) : Bool :=
  (Text.splitOn '/' path).any fun s => s.head? = some ':' || s.head? = some '*'

def maxParameters : Nat := 25

def parameters (p : Pattern) : Nat :=
  p.countP fun
    | .segment _ => true
    | _ => false

def read? (path : String) : Option Pattern :=
  let s := path.toList
  if s.head? = some '/' && !hasForeignMark s then
    (readFrom s.length s).filter fun p => p.parameters ≤ maxParameters
  else none

def fits : Pattern → List Char → Bool
  | [], s => s.isEmpty
  | .literal c :: ps, s =>
    match s with
    | [] => false
    | x :: r => c == x && fits ps r
  | [.segment _], s => !s.isEmpty && !s.contains '/'
  | .segment _ :: ps, s => fits ps (s.dropWhile (· != '/'))
  | .remainder _ :: _, s => !s.isEmpty

/-- Of two patterns that fit a path, the one that is more literal at the first difference goes
first. -/
def precedes : Pattern → Pattern → Bool
  | .literal _ :: ps, .literal _ :: qs => precedes ps qs
  | .literal _ :: _, _ :: _ => true
  | .segment _ :: ps, .segment _ :: qs => precedes ps qs
  | .segment _ :: _, .remainder _ :: _ => true
  | _, _ => false

/-- Patterns that cannot stand beside each other: they differ in names at most, or one has its
remainder where the other has a parameter. -/
def conflicts : Pattern → Pattern → Bool
  | [], [] => true
  | .literal c :: ps, .literal d :: qs => c == d && conflicts ps qs
  | .segment _ :: ps, .segment _ :: qs => conflicts ps qs
  | .remainder _ :: _, .remainder _ :: _ => true
  | .remainder _ :: _, .segment _ :: _ => true
  | .segment _ :: _, .remainder _ :: _ => true
  | _, _ => false

end Pattern

end TracedService.Server
