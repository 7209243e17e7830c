import TracedService.Text.Ascii
import TracedService.Text.Hex
import TracedService.Text.Utf8
import TracedService.Yaml.Source

/-! Anchors, tags and directives: the words that begin with `&`, `*`, `!` and `%`. All of them stand
within a line. -/

namespace TracedService.Yaml

def isNameChar (c : Char) : Bool :=
  Text.isLetter c || Text.isDigit c || c == '_' || c == '-'

def isFollowedBy (closers : String) (s : List Char) : Bool :=
  match s with
  | [] => true
  | c :: _ => isWhite c || closers.toList.contains c

/-- A handle and the bytes behind it, not yet looked up. -/
structure Tag where
  handle : List Char
  suffix : Text.Utf8.Bytes
  deriving DecidableEq, Repr

def anchorName? (s : List Char) : Option (List Char) :=
  let name := s.takeWhile isNameChar
  if !name.isEmpty && isFollowedBy "?:,]\x7d%@\x60" (s.drop name.length) then some name else none

namespace Tag

def isUriChar (verbatim : Bool) (c : Char) : Bool :=
  isNameChar c || ";/?:@&=+$.!~*'()%".toList.contains c || (verbatim && ",[]".toList.contains c)

def followers? (b : UInt8) : Option Nat :=
  if b < 0x80 then some 0
  else if b &&& 0xE0 = 0xC0 then some 1
  else if b &&& 0xF0 = 0xE0 then some 2
  else if b &&& 0xF8 = 0xF0 then some 3
  else none

/-- The bytes of a URI. A percent sign begins the triplets of one character, of which `later` are
still to come; long forms and surrogates pass. -/
def unescape (directive : Bool) : Nat → List Char → Except Fault Text.Utf8.Bytes
  | later, '%' :: a :: b :: r =>
    match Text.Hex.value? a, Text.Hex.value? b with
    | some x, some y =>
      let byte := UInt8.ofNat (x * 16 + y)
      match later with
      | 0 =>
        match followers? byte with
        | some n => (unescape directive n r).map (byte :: ·)
        | none => .error (.tagFirstByte directive)
      | n + 1 =>
        if byte &&& 0xC0 = 0x80 then (unescape directive n r).map (byte :: ·)
        else .error (.tagLaterByte directive)
    | _, _ => .error (.tagEscape directive)
  | 0, [] => .ok []
  | 0, c :: r =>
    if c = '%' then .error (.tagEscape directive)
    else (unescape directive 0 r).map (Text.Utf8.encodeChar c ++ ·)
  | _ + 1, _ => .error (.tagEscape directive)

def uri (directive verbatim : Bool) (s : List Char) : Except Fault (Text.Utf8.Bytes × Nat) :=
  let raw := s.takeWhile (isUriChar verbatim)
  (unescape directive 0 raw).map fun bs => (bs.takeWhile (· != 0), raw.length)

def someUri (directive verbatim : Bool) (s : List Char) :
    Except Fault (Text.Utf8.Bytes × Nat) := do
  let (bs, n) ← uri directive verbatim s
  if n = 0 then throw (.emptyTag directive) else return (bs, n)

def handle? : List Char → Option (List Char)
  | '!' :: r =>
    let name := r.takeWhile isNameChar
    match r.drop name.length with
    | '!' :: _ => some ('!' :: name ++ ['!'])
    | _ => some ('!' :: name)
  | _ => none

/-- The handle has a mark at both ends. -/
def isClosed (handle : List Char) : Bool :=
  1 < handle.length && handle.getLast? = some '!'

def body (s : List Char) : Except Fault (Tag × Nat) :=
  match s with
  | '!' :: '<' :: r => do
    let (bs, n) ← someUri false true r
    match r.drop n with
    | '>' :: _ => return (⟨[], bs⟩, n + 3)
    | _ => throw .openTagBracket
  | _ => do
    let handle := (handle? s).getD []
    if isClosed handle then
      let (bs, n) ← someUri false false (s.drop handle.length)
      return (⟨handle, bs⟩, handle.length + n)
    else
      let (bs, n) ← uri false false (s.drop handle.length)
      let suffix := Text.Utf8.encode (handle.drop 1) ++ bs
      let tag : Tag := if suffix.isEmpty then ⟨[], Text.Utf8.encode ['!']⟩ else ⟨['!'], suffix⟩
      return (tag, handle.length + n)

def read (flow : Bool) (s : List Char) : Except Fault (Tag × Nat) := do
  let (tag, n) ← body s
  if isFollowedBy (if flow then "," else "") (s.drop n) then return (tag, n) else throw .tagEnd

end Tag

inductive Directive where
  | version (major minor : Nat)
  | tag (handle : List Char) (start : Text.Utf8.Bytes)
  deriving DecidableEq, Repr

namespace Directive

def number (s : List Char) : Except Fault (Nat × List Char) :=
  let ds := s.takeWhile Text.isDigit
  if ds.isEmpty then .error .versionNumber
  else if 9 < ds.length then .error .longVersion
  else .ok (Text.digitsValue ds, s.drop ds.length)

def skipBlanks (s : List Char) : List Char :=
  s.dropWhile isBlank

def versionValue (s : List Char) : Except Fault (Directive × List Char) := do
  let (major, r) ← number (skipBlanks s)
  match r with
  | '.' :: r =>
    let (minor, r) ← number r
    return (.version major minor, r)
  | _ => throw .versionPoint

def tagValue (s : List Char) : Except Fault (Directive × List Char) := do
  let s := skipBlanks s
  match Tag.handle? s with
  | none => throw .handleStart
  | some handle =>
    let r := s.drop handle.length
    if handle.length ≠ 1 && !Tag.isClosed handle then throw .handleEnd
    else if !r.head?.any isBlank then throw .handleGap
    else
      let r := skipBlanks r
      let (bs, n) ← Tag.someUri true true r
      if endsWord (r.drop n) then return (.tag handle bs, r.drop n) else throw .handleTextEnd

def body (s : List Char) : Except Fault (Directive × List Char) :=
  let name := s.takeWhile isNameChar
  let r := s.drop name.length
  if name.isEmpty then .error .directiveName
  else if !endsWord r then .error .directiveNameEnd
  else if name = "YAML".toList then versionValue r
  else if name = "TAG".toList then tagValue r
  else .error .unknownDirective

def read (s : List Char) : Except Fault (Directive × List Char) := do
  let (d, r) ← body s
  let r := skipBlanks r
  let r := match r with
    | '#' :: _ => r.dropWhile fun c => !isBreak c
    | _ => r
  match r with
  | [] => return (d, [])
  | c :: _ => if isBreak c then return (d, r) else throw .directiveEnd

end Directive

end TracedService.Yaml
