import TracedService.Text.Ascii
import TracedService.Text.Occurs
import TracedService.Text.Utf8

/-! Request targets and addresses: the four forms of a URI, how a text is read, and how it is
written back. Whether path and query may hold characters past ASCII is a choice of the reader. -/

namespace TracedService.Http

inductive UriFault where
  | empty
  | tooLong
  | schemeTooLong
  | badCharacter
  | badAuthority
  | badFormat
  deriving DecidableEq, Repr

namespace UriFault

def message : UriFault → String
  | empty => "empty string"
  | tooLong => "uri too long"
  | schemeTooLong => "scheme too long"
  | badCharacter => "invalid uri character"
  | badAuthority => "invalid authority"
  | badFormat => "invalid format"

end UriFault

/-- A path as it was received, and the text behind the first question mark. -/
structure PathQuery where
  path : List Char
  query : Option (List Char) := none
  deriving DecidableEq, Repr

inductive Uri where
  | origin (target : PathQuery)
  | asterisk
  | authority (host : List Char)
  | absolute (scheme host : List Char) (target : PathQuery)
  deriving DecidableEq, Repr

namespace PathQuery

def isPathChar (c : Char) : Bool :=
  let n := c.toNat
  n == 0x21 || (0x24 ≤ n && n ≤ 0x3B) || n == 0x3D || (0x40 ≤ n && n ≤ 0x5F) ||
    (0x61 ≤ n && n ≤ 0x7A) || n == 0x7C || n == 0x7E || c == '"' || c == '\x7b' || c == '\x7d'

def isQueryChar (c : Char) : Bool :=
  let n := c.toNat
  n == 0x21 || (0x24 ≤ n && n ≤ 0x3B) || n == 0x3D || (0x3F ≤ n && n ≤ 0x7E)

def isForeign (c : Char) : Bool :=
  0x80 ≤ c.toNat

/-- The part that counts; what follows a number sign is a fragment and dropped. -/
def read? (foreign : Bool) (s : List Char) : Option PathQuery :=
  let path := s.takeWhile fun c => c != '?' && c != '#'
  let query := match s.dropWhile fun c => c != '?' && c != '#' with
    | '?' :: r => some (r.takeWhile (· != '#'))
    | _ => none
  if (path.all fun c => isPathChar c || (foreign && isForeign c)) &&
      ((query.getD []).all fun c => isQueryChar c || (foreign && isForeign c)) then
    some ⟨path, query⟩
  else none

def queryText (p : PathQuery) : List Char :=
  match p.query with
  | some q => '?' :: q
  | none => []

def text (p : PathQuery) : List Char :=
  match p.path ++ p.queryText with
  | [] => ['/']
  | t => t

def fullPath (p : PathQuery) : List Char :=
  if p.path.isEmpty then ['/'] else p.path

end PathQuery

namespace Uri

def maxLength : Nat := 65534

def maxSchemeLength : Nat := 64

/-- Colons that may follow each other in an authority outside of brackets and user names. -/
def maxColons : Nat := 8

def isSchemeChar (c : Char) : Bool :=
  Text.isLetter c || Text.isDigit c || "+-.~".toList.contains c

/-- What an authority may hold besides the separators it is scanned for. -/
def isAuthorityChar (c : Char) : Bool :=
  Text.isLetter c || Text.isDigit c || "!$&'()*+,-.;=_~".toList.contains c

/-- What is known after a part of an authority: colons and a percent sign since the last `@` or
bracket, brackets seen, and whether the last character was an `@`. -/
structure AuthorityScan where
  colons : Nat := 0
  opened : Bool := false
  closed : Bool := false
  percent : Bool := false
  endsInAt : Bool := false

def authorityLength (a : AuthorityScan) : List Char → Except UriFault Nat
  | [] => finish a
  | c :: r =>
    if c == '/' || c == '?' || c == '#' then finish a
    else do
      let a := { a with endsInAt := c == '@' }
      let a ←
        if c == ':' then
          if maxColons ≤ a.colons then throw .badAuthority
          else pure { a with colons := a.colons + 1 }
        else if c == '[' then
          if a.percent || a.opened then throw .badAuthority else pure { a with opened := true }
        else if c == ']' then
          if !a.opened || a.closed then throw .badAuthority
          else pure { a with closed := true, colons := 0, percent := false }
        else if c == '@' then pure { a with colons := 0, percent := false }
        else if c == '%' then pure { a with percent := true }
        else if isAuthorityChar c then pure a
        else throw .badCharacter
      let n ← authorityLength a r
      return n + 1
where
  /-- An authority must have its brackets closed, one port at most, a host, and no percent sign in
  the host. -/
  finish (a : AuthorityScan) : Except UriFault Nat :=
    if a.opened != a.closed || 1 < a.colons || a.endsInAt || a.percent then .error .badAuthority
    else .ok 0

def scheme (s : List Char) : Except UriFault (Option (List Char) × List Char) :=
  let name := s.takeWhile isSchemeChar
  match Text.dropStart? "://".toList (s.dropWhile isSchemeChar) with
  | none => .ok (none, s)
  | some rest =>
    let small := name.map Text.lower
    if small = "http".toList || small = "https".toList then .ok (some small, rest)
    else if maxSchemeLength < name.length then .error .schemeTooLong
    else .ok (some name, rest)

def read (foreign : Bool) (s : List Char) : Except UriFault Uri :=
  let target (t : List Char) : Except UriFault PathQuery :=
    match PathQuery.read? foreign t with
    | some p => .ok p
    | none => .error .badCharacter
  if maxLength < Text.Utf8.length s then .error .tooLong
  else
    match s with
    | [] => .error .empty
    | ['*'] => .ok .asterisk
    | '/' :: _ => (target s).map .origin
    | [_] => do
      let n ← authorityLength {} s
      if n = 1 then return .authority s else throw .badCharacter
    | _ => do
      let (name, rest) ← scheme s
      let n ← authorityLength {} rest
      match name with
      | none => if n = rest.length then return .authority rest else throw .badFormat
      | some name =>
        if n = 0 then throw .badFormat
        else return .absolute name (rest.take n) (← target (rest.drop n))

def path : Uri → List Char
  | origin t => t.path
  | asterisk => ['*']
  | authority _ => []
  | absolute _ _ t => t.fullPath

/-- Path and query as a server span reports them; an address without a scheme has none. -/
def target : Uri → List Char
  | origin t => t.text
  | asterisk => ['*']
  | authority _ => []
  | absolute _ _ t => t.text

def text : Uri → List Char
  | origin t => t.path ++ t.queryText
  | asterisk => ['*']
  | authority host => host
  | absolute name host t => name ++ "://".toList ++ host ++ t.fullPath ++ t.queryText

end Uri

end TracedService.Http
