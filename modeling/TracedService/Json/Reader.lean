import TracedService.Json.Number
import TracedService.Number.Literal
import TracedService.Text.Hex
import TracedService.Text.Quoted
import TracedService.Text.Utf8

/-! Reading JSON texts piece by piece: the first fault ends the reading, and each fault has its own
words. A value that nobody asks for is passed over by its form alone: neither the size of its
numbers nor the codes in its strings are looked at. -/

namespace TracedService.Json

inductive Fault where
  | endInList
  | endInObject
  | endInString
  | endInValue
  | noColon
  | noListEnd
  | noObjectEnd
  | noWord
  | noValue
  | badEscape
  | badNumber
  | numberTooLarge
  | control
  | keyNoString
  | loneSurrogate
  | cutEscape
  | trailingComma
  | trailingText
  | wrongType (found expected : String)
  | wrongLength (length : Nat) (expected : String)
  | missingField (name : String)
  | duplicateField (name : String)
  deriving DecidableEq, Repr

namespace Fault

def message : Fault → String
  | endInList => "EOF while parsing a list"
  | endInObject => "EOF while parsing an object"
  | endInString => "EOF while parsing a string"
  | endInValue => "EOF while parsing a value"
  | noColon => "expected \x60:\x60"
  | noListEnd => "expected \x60,\x60 or \x60]\x60"
  | noObjectEnd => "expected \x60,\x60 or \x60\x7d\x60"
  | noWord => "expected ident"
  | noValue => "expected value"
  | badEscape => "invalid escape"
  | badNumber => "invalid number"
  | numberTooLarge => "number out of range"
  | control => "control character (\\u0000-\\u001F) found while parsing a string"
  | keyNoString => "key must be a string"
  | loneSurrogate => "lone leading surrogate in hex escape"
  | cutEscape => "unexpected end of hex escape"
  | trailingComma => "trailing comma"
  | trailingText => "trailing characters"
  | wrongType found expected => "invalid type: " ++ found ++ ", expected " ++ expected
  | wrongLength length expected =>
    "invalid length " ++ toString length ++ ", expected " ++ expected
  | missingField name => "missing field \x60" ++ name ++ "\x60"
  | duplicateField name => "duplicate field \x60" ++ name ++ "\x60"

end Fault

abbrev Reader := StateT (List Char) (Except Fault)

namespace Reader

def isSpace (c : Char) : Bool :=
  c == ' ' || c == '\n' || c == '\t' || c == '\r'

def look? : Reader (Option Char) := do
  let s := (← get).dropWhile isSpace
  set s
  return s.head?

def take : Reader Unit :=
  modify (·.drop 1)

def word (rest : String) : Reader Unit := do
  take
  for c in rest.toList do
    match (← get).head? with
    | none => throw .endInValue
    | some d => if c = d then take else throw .noWord

def code : Reader Nat := do
  let s ← get
  if Text.Utf8.length (s.take 4) < 4 then throw .endInString
  else
    match Text.Hex.readFrom? 0 (s.take 4) with
    | some n => if s.length < 4 then throw .badEscape else set (s.drop 4); return n
    | none => throw .badEscape

def escapedCode : Reader Char := do
  let n ← code
  if 0xDC00 ≤ n && n ≤ 0xDFFF then throw .loneSurrogate
  else if 0xD800 ≤ n && n ≤ 0xDBFF then
    match ← get with
    | '\\' :: 'u' :: r =>
      set r
      let m ← code
      if 0xDC00 ≤ m && m ≤ 0xDFFF then
        return Char.ofNat (0x10000 + (n - 0xD800) * 0x400 + (m - 0xDC00))
      else throw .loneSurrogate
    | [] | ['\\'] => throw .endInString
    | _ => throw .cutEscape
  else return Char.ofNat n

def stringFrom : Nat → List Char → Reader (List Char)
  | 0, _ => throw .endInString
  | fuel + 1, acc => do
    match ← get with
    | [] => throw .endInString
    | '"' :: r => set r; return acc.reverse
    | '\\' :: c :: r =>
      set r
      if c = 'u' then stringFrom fuel ((← escapedCode) :: acc)
      else
        match [('"', '"'), ('\\', '\\'), ('/', '/'), ('b', '\u0008'), ('f', '\u000C'),
            ('n', '\n'), ('r', '\r'), ('t', '\t')].find? (·.1 == c) with
        | some (_, x) => stringFrom fuel (x :: acc)
        | none => throw .badEscape
    | ['\\'] => throw .endInString
    | c :: r => if c.toNat < 32 then throw .control else set r; stringFrom fuel (c :: acc)

def string : Reader (List Char) := do
  take
  stringFrom ((← get).length + 1) []

/-- Digits, of which there has to be one; `ending` is the fault of a text that stops before it. -/
def digits (ending : Fault) : Reader (List Char) := do
  let s ← get
  let ds := s.takeWhile Text.isDigit
  set (s.drop ds.length)
  if ds.isEmpty then throw (if s.isEmpty then ending else .badNumber) else return ds

def numberParts (ending : Fault) :
    Reader (Bool × List Char × Option (List Char) × Option (Bool × List Char)) := do
  let negative := (← get).head? = some '-'
  if negative then take
  let whole ← digits ending
  if 1 < whole.length && whole.head? = some '0' then throw .badNumber
  let fraction ←
    if (← get).head? = some '.' then do take; pure (some (← digits ending)) else pure none
  let power ←
    if (← get).head?.any fun c => c = 'e' || c = 'E' then do
      take
      let (minus, r) := Number.sign (← get)
      set r
      pure (some (minus, ← digits ending))
    else pure none
  return (negative, whole, fraction, power)

def number : Reader Number := do
  let (negative, whole, fraction, power) ← numberParts .endInValue
  match Number.ofParts? negative whole fraction power with
  | some n => return n
  | none => throw .numberTooLarge

/-- A value of the wrong type, told once it has been read as far as its name needs. -/
def wrongType {α : Type} (expected : String) (c : Char) : Reader α := do
  let found ←
    if c = 'n' then do word "ull"; pure "null"
    else if c = 't' then do word "rue"; pure "boolean \x60true\x60"
    else if c = 'f' then do word "alse"; pure "boolean \x60false\x60"
    else if c = '-' || Text.isDigit c then do pure (← number).described
    else if c = '"' then do pure ("string " ++ String.ofList (Text.Quoted.text (← string)))
    else if c = '[' then pure "sequence"
    else if c = '\x7b' then pure "map"
    else throw .noValue
  throw (.wrongType found expected)

def text : Reader String := do
  match ← look? with
  | none => throw .endInValue
  | some '"' => return String.ofList (← string)
  | some c => wrongType "a string" c

def optionalText : Reader (Option String) := do
  if (← look?) = some 'n' then word "ull"; return none
  else return some (← text)

def colon : Reader Unit := do
  match ← look? with
  | some ':' => take
  | some _ => throw .noColon
  | none => throw .endInObject

/-- The next key of an object, `none` at its end. -/
def key? (first : Bool) : Reader (Option String) := do
  match ← look? with
  | some '\x7d' => take; return none
  | none => throw .endInObject
  | some c =>
    if first then
      if c = '"' then return some (String.ofList (← string)) else throw .keyNoString
    else if c = ',' then
      take
      match ← look? with
      | some '"' => return some (String.ofList (← string))
      | some '\x7d' => throw .trailingComma
      | some _ => throw .keyNoString
      | none => throw .endInValue
    else throw .noObjectEnd

def skipString : Nat → Reader Unit
  | 0 => throw .endInString
  | fuel + 1 => do
    match ← get with
    | [] | ['\\'] => throw .endInString
    | '"' :: r => set r
    | '\\' :: c :: r =>
      set r
      if c = 'u' then discard code
      else if !"\"\\/bfnrt".toList.contains c then throw .badEscape
      skipString fuel
    | c :: r => if c.toNat < 32 then throw .control else set r; skipString fuel

def skipKey : Reader Unit := do
  match ← look? with
  | some '"' => take; skipString ((← get).length + 1); colon
  | some _ => throw .keyNoString
  | none => throw .endInObject

/-- Passes over a value; `fuel` bounds its depth and its number of parts. -/
def skip : Nat → Reader Unit
  | 0 => throw .endInValue
  | fuel + 1 => do
    match ← look? with
    | none => throw .endInValue
    | some 'n' => word "ull"
    | some 't' => word "rue"
    | some 'f' => word "alse"
    | some '"' => take; skipString ((← get).length + 1)
    | some '[' => take; skipItems fuel true
    | some '\x7b' => take; skipEntries fuel true
    | some c =>
      if c = '-' || Text.isDigit c then discard (numberParts .badNumber) else throw .noValue
where
  skipItems : Nat → Bool → Reader Unit
    | 0, _ => throw .endInList
    | fuel + 1, first => do
      match ← look? with
      | none => throw .endInList
      | some ']' => take
      | some c =>
        if first then skip fuel; skipItems fuel false
        else if c = ',' then take; skip fuel; skipItems fuel false
        else throw .noListEnd
  skipEntries : Nat → Bool → Reader Unit
    | 0, _ => throw .endInObject
    | fuel + 1, first => do
      match ← look? with
      | none => throw .endInObject
      | some '\x7d' => take
      | some c =>
        if first then skipKey; skip fuel; skipEntries fuel false
        else if c = ',' then take; skipKey; skip fuel; skipEntries fuel false
        else throw .noObjectEnd

def finish : Reader Unit := do
  if (← look?).isSome then throw .trailingText

end Reader

end TracedService.Json
