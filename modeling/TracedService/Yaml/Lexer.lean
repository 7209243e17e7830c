import TracedService.Yaml.Block
import TracedService.Yaml.Plain
import TracedService.Yaml.Quoted
import TracedService.Yaml.Token

/-! From characters to tokens. A key without an indicator is only known by the colon behind it, so
the lexer remembers where such a key may begin; a token that may yet turn out to be a key is not
handed on. -/

namespace TracedService.Yaml

/-- A token that may turn out to be a key, by its number; `required` says that it has to. -/
structure SimpleKey where
  required : Bool
  token : Nat
  mark : Mark
  deriving DecidableEq, Repr

/-- Lists have their latest element first. There is one place for a simple key at each level of
brackets, the block level included. `ready` counts the tokens that can be handed on. -/
structure Lexer where
  cursor : Cursor
  started : Bool := false
  ended : Bool := false
  flow : Nat := 0
  indent : Option Nat := none
  indents : List (Option Nat) := []
  keyAllowed : Bool := false
  keys : List (Option SimpleKey) := []
  count : Nat := 0
  queue : List Token := []
  ready : Nat := 0
  deriving Repr

namespace SimpleKey

def maxLength : Nat := 1024

def isStale (k : SimpleKey) (m : Mark) : Bool :=
  k.mark.line < m.line || k.mark.column + maxLength < m.column

end SimpleKey

namespace Lexer

def ofSource (s : List Char) : Lexer :=
  { cursor := ⟨{}, s⟩ }

def add (l : Lexer) (t : Token) : Lexer :=
  { l with queue := t :: l.queue, count := l.count + 1 }

def insertAt (l : Lexer) (number : Nat) (t : Token) : Lexer :=
  let later := l.count - number
  { l with
    queue := l.queue.take later ++ t :: l.queue.drop later, count := l.count + 1 }

def moveTo (l : Lexer) (c : Cursor) : Lexer :=
  { l with cursor := c }

def pass (l : Lexer) (n : Nat) : Lexer :=
  l.moveTo ⟨l.cursor.mark.along n, l.cursor.rest.drop n⟩

def inFlow (l : Lexer) : Bool :=
  0 < l.flow

def dropStaleKeys (l : Lexer) : Except Fault Lexer :=
  let stale (k : Option SimpleKey) : Bool := k.any (·.isStale l.cursor.mark)
  if l.keys.any fun k => stale k && k.any (·.required) then .error .missedColon
  else .ok { l with keys := l.keys.map fun k => if stale k then none else k }

def dropKey (l : Lexer) : Except Fault Lexer :=
  match l.keys with
  | [] => .ok l
  | k :: ks => if k.any (·.required) then .error .missedColon else .ok { l with keys := none :: ks }

def saveKey (l : Lexer) : Except Fault Lexer :=
  if l.keyAllowed then do
    let required := !l.inFlow && l.indent = some l.cursor.mark.column
    let l ← l.dropKey
    return { l with keys := some ⟨required, l.count, l.cursor.mark⟩ :: l.keys.drop 1 }
  else .ok l

def openBlock (l : Lexer) (column number : Nat) (t : Token) : Lexer :=
  if l.inFlow then l
  else if l.indent.all (· < column) then
    { l.insertAt number t with indent := some column, indents := l.indent :: l.indents }
  else l

/-- Closes the blocks that are indented deeper than `column`, all of them without one. -/
def closeBlocks (column : Option Nat) (indents : List (Option Nat)) (l : Lexer) : Lexer :=
  match l.indent with
  | none => l
  | some i =>
    if l.inFlow || column.any (i ≤ ·) then l
    else
      match indents with
      | [] => l
      | j :: js => closeBlocks column js ({ l with indent := j, indents := js }.add .blockEnd)

def unindent (l : Lexer) (column : Option Nat) : Lexer :=
  closeBlocks column l.indents l

def endBlocks (l : Lexer) : Except Fault Lexer := do
  let l ← (l.unindent none).dropKey
  return { l with keyAllowed := false }

def streamStart (l : Lexer) : Lexer :=
  { l with started := true, keyAllowed := true, keys := [none] }.add .streamStart

def streamEnd (l : Lexer) : Except Fault Lexer := do
  let m := l.cursor.mark
  let next : Mark := if m.column = 0 then m else ⟨m.line + 1, 0⟩
  let l ← (l.moveTo ⟨next, l.cursor.rest⟩).endBlocks
  return { l with ended := true }.add .streamEnd

def directive (l : Lexer) : Except Fault Lexer := do
  let l ← l.endBlocks
  let (d, rest) ← Directive.read (l.cursor.rest.drop 1)
  let next : Cursor := match rest with
    | c :: r => ⟨l.cursor.mark.advance c, r⟩
    | [] => ⟨l.cursor.mark.along l.cursor.rest.length, []⟩
  return (l.moveTo next).add (.directive d)

def documentIndicator (l : Lexer) (t : Token) : Except Fault Lexer := do
  let l ← l.endBlocks
  return (l.pass 3).add t

def openFlow (l : Lexer) (t : Token) : Except Fault Lexer := do
  let l ← l.saveKey
  return ({ l with flow := l.flow + 1, keyAllowed := true, keys := none :: l.keys }.pass 1).add t

def closeFlow (l : Lexer) (t : Token) : Except Fault Lexer := do
  let l ← l.dropKey
  let l := if l.inFlow then { l with flow := l.flow - 1, keys := l.keys.drop 1 } else l
  return ({ l with keyAllowed := false }.pass 1).add t

def flowEntry (l : Lexer) : Except Fault Lexer := do
  let l ← l.dropKey
  return ({ l with keyAllowed := true }.pass 1).add .flowEntry

def openAtIndicator (l : Lexer) (t : Token) (stray : Fault) : Except Fault Lexer :=
  if l.inFlow then .ok l
  else if l.keyAllowed then .ok (l.openBlock l.cursor.mark.column l.count t)
  else .error stray

def blockEntry (l : Lexer) : Except Fault Lexer := do
  let l ← l.openAtIndicator .blockSequenceStart .strayEntry
  let l ← l.dropKey
  return ({ l with keyAllowed := true }.pass 1).add .blockEntry

def explicitKey (l : Lexer) : Except Fault Lexer := do
  let l ← l.openAtIndicator .blockMappingStart .strayKey
  let l ← l.dropKey
  return ({ l with keyAllowed := !l.inFlow }.pass 1).add .key

/-- A colon makes the pending simple key a key; without one it follows an explicit key. -/
def value (l : Lexer) : Except Fault Lexer :=
  match l.keys with
  | some k :: ks =>
    let l := l.insertAt k.token .key
    let l := l.openBlock k.mark.column k.token .blockMappingStart
    .ok (({ l with keys := none :: ks, keyAllowed := false }.pass 1).add .value)
  | _ => do
    let l ← l.openAtIndicator .blockMappingStart .strayValue
    return ({ l with keyAllowed := !l.inFlow }.pass 1).add .value

def anchor (l : Lexer) (make : List Char → Token) (empty : Fault) : Except Fault Lexer := do
  let l ← l.saveKey
  match anchorName? (l.cursor.rest.drop 1) with
  | some name => return ({ l with keyAllowed := false }.pass (name.length + 1)).add (make name)
  | none => throw empty

def tag (l : Lexer) : Except Fault Lexer := do
  let l ← l.saveKey
  let (t, n) ← Tag.read l.inFlow l.cursor.rest
  return ({ l with keyAllowed := false }.pass n).add (.tag t)

def blockScalar (l : Lexer) (literal : Bool) : Except Fault Lexer := do
  let l ← l.dropKey
  let (text, next) ← Block.read literal l.indent (l.cursor.mark.along 1) (l.cursor.rest.drop 1)
  return ({ l with keyAllowed := true }.moveTo next).add
    (.scalar text (if literal then .literal else .folded))

def quotedScalar (l : Lexer) (single : Bool) : Except Fault Lexer := do
  let l ← l.saveKey
  let (text, next) ← Quoted.run single {} (l.cursor.mark.along 1) (l.cursor.rest.drop 1)
  return ({ l with keyAllowed := false }.moveTo next).add
    (.scalar text (if single then .single else .double))

def plainScalar (l : Lexer) : Except Fault Lexer := do
  let l ← l.saveKey
  let least := match l.indent with
    | some i => i + 1
    | none => 0
  let (text, broken, next) ← Plain.run l.inFlow least {} l.cursor.mark l.cursor.rest
  return ({ l with keyAllowed := broken }.moveTo next).add (.scalar text .plain)

def startsPlain (flow : Bool) (c : Char) (r : List Char) : Bool :=
  !(isWhite c || "-?:,[]\x7b\x7d#&*!|>'\"%@\x60".toList.contains c) ||
    (c == '-' && !(r.head?.any isBlank)) ||
    (!flow && (c == '?' || c == ':') && !endsWord r)

/-- Passes over blanks, comments and line breaks. A line outside of brackets may begin with a key;
where one may, a tab is no blank. -/
def skipBlanks (flow : Bool) (keyAllowed comment : Bool) (m : Mark) :
    List Char → Bool × Cursor
  | [] => (keyAllowed, ⟨m, []⟩)
  | c :: r =>
    if isBreak c then skipBlanks flow (keyAllowed || !flow) false (m.advance c) r
    else if comment then skipBlanks flow keyAllowed true (m.advance c) r
    else if c == ' ' || (c == '\t' && (flow || !keyAllowed)) ||
        (m.column == 0 && c == byteOrderMark) then
      skipBlanks flow keyAllowed false (m.advance c) r
    else if c == '#' then skipBlanks flow keyAllowed true (m.advance c) r
    else (keyAllowed, ⟨m, c :: r⟩)

def fetch (l : Lexer) (c : Char) (r : List Char) : Except Fault Lexer :=
  let atStart := l.cursor.mark.column = 0
  if atStart && c == '%' then l.directive
  else if atStart && isIndicator "---".toList (c :: r) then l.documentIndicator .documentStart
  else if atStart && isIndicator "...".toList (c :: r) then l.documentIndicator .documentEnd
  else if c == '[' then l.openFlow .flowSequenceStart
  else if c == '\x7b' then l.openFlow .flowMappingStart
  else if c == ']' then l.closeFlow .flowSequenceEnd
  else if c == '\x7d' then l.closeFlow .flowMappingEnd
  else if c == ',' then l.flowEntry
  else if c == '-' && endsWord r then l.blockEntry
  else if c == '?' && (l.inFlow || endsWord r) then l.explicitKey
  else if c == ':' && (l.inFlow || endsWord r) then l.value
  else if c == '*' then l.anchor .alias .emptyAlias
  else if c == '&' then l.anchor .anchor .emptyAnchor
  else if c == '!' then l.tag
  else if c == '|' && !l.inFlow then l.blockScalar true
  else if c == '>' && !l.inFlow then l.blockScalar false
  else if c == '\'' then l.quotedScalar true
  else if c == '"' then l.quotedScalar false
  else if startsPlain l.inFlow c r then l.plainScalar
  else .error .strayCharacter

def step (l : Lexer) : Except Fault Lexer :=
  if l.started then do
    let (allowed, next) := skipBlanks l.inFlow l.keyAllowed false l.cursor.mark l.cursor.rest
    let l ← ({ l with keyAllowed := allowed }.moveTo next).dropStaleKeys
    match l.cursor.rest with
    | [] => (l.unindent (some l.cursor.mark.column)).streamEnd
    | c :: r => (l.unindent (some l.cursor.mark.column)).fetch c r
  else .ok l.streamStart

/-- Counts the tokens in front of the first that may yet be a key. While a key that has to be there
is missed, no more tokens are handed on. -/
def settle (l : Lexer) : Except Fault Lexer := do
  let l ← l.dropStaleKeys
  let bound := l.keys.foldl (fun n k => match k with
    | some k => min n k.token
    | none => n) l.count
  return { l with ready := max l.ready bound }

def run : Nat → Lexer → Lexer × Option Fault
  | 0, l => (l, none)
  | fuel + 1, l =>
    if l.ended then (l, none)
    else
      match l.step with
      | .error f => (l, some f)
      | .ok next =>
        match next.settle with
        | .error f => (l, some f)
        | .ok next => run fuel next

/-- The tokens of a stream that can be handed on, and what stops the reading before the end of the
stream. -/
def tokens (s : List Char) : List Token × Option Fault :=
  let (l, fault) := run (s.length + 2) (ofSource s)
  (l.queue.reverse.take l.ready, fault)

end Lexer

end TracedService.Yaml
