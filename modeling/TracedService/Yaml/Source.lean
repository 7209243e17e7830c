import TracedService.Text.Occurs
import TracedService.Text.Utf8
import TracedService.Yaml.Fault

/-! The characters of a YAML stream. A stream holds printable characters only; every line break but
the two Unicode separators is one line feed from here on. A byte order mark counts as a character of
its line. -/

namespace TracedService.Yaml

/-- Line and column of a character, both from zero. -/
structure Mark where
  line : Nat := 0
  column : Nat := 0
  deriving DecidableEq, Repr

/-- A place in the stream: where it is, and the characters from there. -/
structure Cursor where
  mark : Mark
  rest : List Char
  deriving DecidableEq, Repr

def isBreak (c : Char) : Bool :=
  c == '\n' || c == '\u2028' || c == '\u2029'

def isBlank (c : Char) : Bool :=
  c == ' ' || c == '\t'

def isWhite (c : Char) : Bool :=
  isBlank c || isBreak c

namespace Mark

def advance (m : Mark) (c : Char) : Mark :=
  if isBreak c then ⟨m.line + 1, 0⟩ else ⟨m.line, m.column + 1⟩

def along (m : Mark) (n : Nat) : Mark :=
  ⟨m.line, m.column + n⟩

end Mark

def endsWord : List Char → Bool
  | [] => true
  | c :: _ => isWhite c

def isIndicator (word s : List Char) : Bool :=
  match Text.dropStart? word s with
  | some rest => endsWord rest
  | none => false

def isDocumentIndicator (s : List Char) : Bool :=
  isIndicator "---".toList s || isIndicator "...".toList s

def byteOrderMark : Char := '\uFEFF'

def isPrintable (c : Char) : Bool :=
  let n := c.toNat
  n == 0x09 || n == 0x0A || n == 0x0D || (0x20 ≤ n && n ≤ 0x7E) || n == 0x85 ||
    (0xA0 ≤ n && n ≤ 0xD7FF) || (0xE000 ≤ n && n ≤ 0xFFFD) || 0x10000 ≤ n

/-- A carriage return, alone or before a line feed, and a next-line character become a line feed. -/
def unifyBreaks : List Char → List Char
  | '\r' :: '\n' :: r => '\n' :: unifyBreaks r
  | c :: r => (if c == '\r' || c == '\u0085' then '\n' else c) :: unifyBreaks r
  | [] => []

def source (s : List Char) : Except Fault (List Char) :=
  let printable := s.takeWhile isPrintable
  if printable.length = s.length then .ok (unifyBreaks s)
  else .error (.controlCharacter (Text.Utf8.length printable))

end TracedService.Yaml
