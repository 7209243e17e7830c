import TracedService.Text.Ascii
import TracedService.Text.Utf8

/-! Header fields: a list of values for each name. Names have no letter case, values are bytes. What
may be written (`isValid`) is more than what can be read as text (`text?`). -/

namespace TracedService.Http

open Text.Utf8 (Bytes)

def isTokenChar (c : Char) : Bool :=
  Text.isLetter c || Text.isDigit c || "!#$%&'*+-.^_\x60|~".toList.contains c

namespace HeaderName

def maxLength : Nat := 65535

def read? (s : String) : Option String :=
  let cs := s.toList
  if !cs.isEmpty && cs.length ≤ maxLength && cs.all isTokenChar then
    some (String.ofList (cs.map Text.lower))
  else none

end HeaderName

namespace HeaderValue

def isByte (b : UInt8) : Bool :=
  (32 ≤ b && b != 127) || b == 9

def isValid (v : Bytes) : Bool :=
  v.all isByte

def isTextByte (b : UInt8) : Bool :=
  (32 ≤ b && b < 127) || b == 9

def text? (v : Bytes) : Option String :=
  if v.all isTextByte then some (String.ofList (v.map fun b => Char.ofNat b.toNat)) else none

end HeaderValue

/-- Name and value pairs in order of arrival; the names are in small letters. -/
structure Headers where
  fields : List (String × Bytes) := []
  deriving DecidableEq, Repr, Inhabited

namespace Headers

def values (h : Headers) (name : String) : List Bytes :=
  h.fields.filterMap fun (n, v) => if n = name then some v else none

def append (h : Headers) (name : String) (value : Bytes) : Headers :=
  ⟨h.fields ++ [(name, value)]⟩

def append? (h : Headers) (name : String) (value : Bytes) : Option Headers := do
  let n ← HeaderName.read? name
  if HeaderValue.isValid value then some (h.append n value) else none

def ofList? (fields : List (String × Bytes)) : Option Headers :=
  fields.foldlM (fun h (n, v) => h.append? n v) {}

def replace (h : Headers) (name : String) (value : Bytes) : Headers :=
  ⟨h.fields.filter (fun f => f.1 != name) ++ [(name, value)]⟩

/-- Writes a text value. A bad name or value changes nothing. -/
def set (h : Headers) (name value : String) : Headers :=
  let bytes := Text.Utf8.encodeText value
  match HeaderName.read? name with
  | some n => if HeaderValue.isValid bytes then h.replace n bytes else h
  | none => h

/-- The first value of the name as text. A value that is no text hides the later ones. -/
def get? (h : Headers) (name : String) : Option String := do
  let n ← HeaderName.read? name
  let v ← (h.values n).head?
  HeaderValue.text? v

def names (h : Headers) : List String :=
  (h.fields.map (·.1)).eraseDups

end Headers

end TracedService.Http
