import TracedService.Yaml.Lexer

/-! The structure of a YAML stream as a list of events: what begins, what ends, and the scalars and
aliases between. A rule says what may come next, and a stack of rules what comes after it. -/

namespace TracedService.Yaml

/-- A scalar with its tag looked up. -/
structure Scalar where
  text : List Char
  style : Style
  tag : Option Text.Utf8.Bytes := none
  deriving DecidableEq, Repr

inductive Event where
  | documentStart
  | documentEnd
  | streamEnd
  | alias (name : List Char)
  | scalar (anchor : Option (List Char)) (s : Scalar)
  | sequenceStart (anchor : Option (List Char))
  | sequenceEnd
  | mappingStart (anchor : Option (List Char))
  | mappingEnd
  deriving DecidableEq, Repr

/-- What is expected next. -/
inductive Rule where
  | streamStart
  | document (implicit : Bool)
  | documentContent
  | documentEnd
  | blockNode
  | blockEntry (first : Bool)
  | indentlessEntry
  | blockKey (first : Bool)
  | blockValue
  | flowEntry (first : Bool)
  | flowPairKey
  | flowPairValue
  | flowPairEnd
  | flowKey (first : Bool)
  | flowValue
  | flowEmptyValue
  | finished
  deriving DecidableEq, Repr

structure Parser where
  tokens : List Token
  stopped : Fault := .endOfStream
  rule : Rule := .streamStart
  stack : List Rule := []
  handles : List (List Char × Text.Utf8.Bytes) := []
  deriving Repr

namespace Parser

def next (p : Parser) : Except Fault Token :=
  match p.tokens with
  | t :: _ => .ok t
  | [] => .error p.stopped

def skip (p : Parser) : Parser :=
  { p with tokens := p.tokens.drop 1 }

def expect (p : Parser) (r : Rule) : Parser :=
  { p with rule := r }

def push (p : Parser) (r : Rule) : Parser :=
  { p with stack := r :: p.stack }

def pop (p : Parser) : Parser :=
  match p.stack with
  | r :: rs => { p with rule := r, stack := rs }
  | [] => { p with rule := .finished }

def empty : Event :=
  .scalar none ⟨[], .plain, none⟩

def standardHandles : List (List Char × Text.Utf8.Bytes) :=
  [("!".toList, Text.Utf8.encodeText "!"),
    ("!!".toList, Text.Utf8.encodeText "tag:yaml.org,2002:")]

/-- The directives in front of a document. There is one version at most, and no handle is declared
twice; a handle may take the place of a standard one. -/
def directives (p : Parser) (version : Bool) : List Token → Except Fault Parser
  | .directive (.version major minor) :: ts =>
    if version then .error .repeatedVersion
    else if major ≠ 1 || (minor ≠ 1 && minor ≠ 2) then .error .unknownVersion
    else directives { p with tokens := ts } true ts
  | .directive (.tag handle start) :: ts =>
    if p.handles.any (·.1 == handle) then .error .repeatedHandle
    else directives { p with tokens := ts, handles := p.handles ++ [(handle, start)] } version ts
  | [] => .error p.stopped
  | _ => .ok { p with handles := p.handles ++ standardHandles }

def isDirective : Token → Bool
  | .directive _ => true
  | _ => false

def lookUp (p : Parser) (t : Tag) : Except Fault Text.Utf8.Bytes :=
  if t.handle.isEmpty then .ok t.suffix
  else
    match p.handles.find? (·.1 == t.handle) with
    | some h => .ok (h.2 ++ t.suffix)
    | none => .error .unknownHandle

def properties (p : Parser) : Option (List Char) × Option Tag × Parser :=
  match p.tokens with
  | .anchor a :: .tag t :: ts => (some a, some t, { p with tokens := ts })
  | .anchor a :: ts => (some a, none, { p with tokens := ts })
  | .tag t :: .anchor a :: ts => (some a, some t, { p with tokens := ts })
  | .tag t :: ts => (none, some t, { p with tokens := ts })
  | _ => (none, none, p)

def scalarTag (tag : Option Text.Utf8.Bytes) : Option Text.Utf8.Bytes :=
  tag.filter (· ≠ Text.Utf8.encodeText "!")

/-- The start of a node. `block` allows blocks, `indentless` a sequence that is not indented. -/
def node (p : Parser) (block indentless : Bool) : Except Fault (Event × Parser) := do
  match ← p.next with
  | .alias name => return (.alias name, p.pop.skip)
  | _ =>
    let (anchor, tag, p) := p.properties
    let t ← p.next
    let tag ← match tag with
      | some t => (p.lookUp t).map some
      | none => .ok none
    match t with
    | .blockEntry =>
      if indentless then return (.sequenceStart anchor, p.expect .indentlessEntry)
      else bare p anchor tag
    | .scalar text style => return (.scalar anchor ⟨text, style, scalarTag tag⟩, p.pop.skip)
    | .flowSequenceStart => return (.sequenceStart anchor, p.expect (.flowEntry true))
    | .flowMappingStart => return (.mappingStart anchor, p.expect (.flowKey true))
    | .blockSequenceStart =>
      if block then return (.sequenceStart anchor, p.expect (.blockEntry true))
      else bare p anchor tag
    | .blockMappingStart =>
      if block then return (.mappingStart anchor, p.expect (.blockKey true))
      else bare p anchor tag
    | _ => bare p anchor tag
where
  bare (p : Parser) (anchor : Option (List Char)) (tag : Option Text.Utf8.Bytes) :
      Except Fault (Event × Parser) :=
    if anchor.isSome || tag.isSome then .ok (.scalar anchor ⟨[], .plain, tag⟩, p.pop)
    else .error (if block then .blockNode else .flowNode)

def nodeUnless (p : Parser) (closers : List Token) (after : Rule) (block indentless : Bool) :
    Except Fault (Event × Parser) := do
  let t ← p.next
  if closers.contains t then return (empty, p.expect after)
  else (p.push after).node block indentless

def documentEnds : List Token :=
  [.documentStart, .documentEnd, .streamEnd]

def explicitDocument (p : Parser) : Except Fault (Event × Parser) := do
  if (← p.next) = .streamEnd then return (.streamEnd, (p.expect .finished).skip)
  else
    let p ← directives p false p.tokens
    if (← p.next) = .documentStart then
      return (.documentStart, ((p.push .documentEnd).expect .documentContent).skip)
    else throw .documentStart

def document (p : Parser) (implicit : Bool) : Except Fault (Event × Parser) := do
  let p := if implicit then p else { p with tokens := p.tokens.dropWhile (· == .documentEnd) }
  let t ← p.next
  if implicit && !isDirective t && t ≠ .documentStart && t ≠ .streamEnd then
    return (.documentStart,
      ({ p with handles := standardHandles }.push .documentEnd).expect .blockNode)
  else p.explicitDocument

def comma (p : Parser) (first : Bool) (close : Token) (missing : Fault) :
    Except Fault Parser := do
  let t ← p.next
  if first || t = close then return p
  else if t = .flowEntry then return p.skip
  else throw missing

def step (p : Parser) : Except Fault (Event × Parser) :=
  match p.rule with
  | .streamStart => (p.skip.expect (.document true)).document true
  | .document implicit => p.document implicit
  | .documentContent => do
    let t ← p.next
    if isDirective t || documentEnds.contains t then return (empty, p.pop)
    else p.node true false
  | .documentEnd => do
    let p := if (← p.next) = .documentEnd then p.skip else p
    return (.documentEnd, { p with handles := [] }.expect (.document false))
  | .blockNode => p.node true false
  | .blockEntry first => do
    let p := if first then p.skip else p
    match ← p.next with
    | .blockEntry => p.skip.nodeUnless [.blockEntry, .blockEnd] (.blockEntry false) true false
    | .blockEnd => return (.sequenceEnd, p.pop.skip)
    | _ => throw .blockEntry
  | .indentlessEntry => do
    match ← p.next with
    | .blockEntry =>
      p.skip.nodeUnless [.blockEntry, .key, .value, .blockEnd] .indentlessEntry true false
    | _ => return (.sequenceEnd, p.pop)
  | .blockKey first => do
    let p := if first then p.skip else p
    match ← p.next with
    | .key => p.skip.nodeUnless [.key, .value, .blockEnd] .blockValue true true
    | .blockEnd => return (.mappingEnd, p.pop.skip)
    | _ => throw .blockKey
  | .blockValue => do
    match ← p.next with
    | .value => p.skip.nodeUnless [.key, .value, .blockEnd] (.blockKey false) true true
    | _ => return (empty, p.expect (.blockKey false))
  | .flowEntry first => do
    let p := if first then p.skip else p
    let p ← p.comma first .flowSequenceEnd .flowEntry
    match ← p.next with
    | .flowSequenceEnd => return (.sequenceEnd, p.pop.skip)
    | .key => return (.mappingStart none, (p.expect .flowPairKey).skip)
    | _ => (p.push (.flowEntry false)).node false false
  | .flowPairKey => do
    let t ← p.next
    if [Token.value, .flowEntry, .flowSequenceEnd].contains t then
      return (empty, (p.expect .flowPairValue).skip)
    else (p.push .flowPairValue).node false false
  | .flowPairValue => do
    match ← p.next with
    | .value => p.skip.nodeUnless [.flowEntry, .flowSequenceEnd] .flowPairEnd false false
    | _ => return (empty, p.expect .flowPairEnd)
  | .flowPairEnd => do
    let _ ← p.next
    return (.mappingEnd, p.expect (.flowEntry false))
  | .flowKey first => do
    let p := if first then p.skip else p
    let p ← p.comma first .flowMappingEnd .flowKey
    match ← p.next with
    | .flowMappingEnd => return (.mappingEnd, p.pop.skip)
    | .key => p.skip.nodeUnless [.value, .flowEntry, .flowMappingEnd] .flowValue false false
    | _ => (p.push .flowEmptyValue).node false false
  | .flowValue => do
    match ← p.next with
    | .value => p.skip.nodeUnless [.flowEntry, .flowMappingEnd] (.flowKey false) false false
    | _ => return (empty, p.expect (.flowKey false))
  | .flowEmptyValue => do
    let _ ← p.next
    return (empty, p.expect (.flowKey false))
  | .finished => throw .endOfStream

def run : Nat → Parser → List Event × Option Fault
  | 0, _ => ([], none)
  | fuel + 1, p =>
    if p.rule = .finished then ([], none)
    else
      match p.step with
      | .error f => ([], some f)
      | .ok (e, p) =>
        let (es, fault) := run fuel p
        (e :: es, fault)

end Parser

def events (text : List Char) : List Event × Option Fault :=
  match source text with
  | .error f => ([], some f)
  | .ok s =>
    let (tokens, fault) := Lexer.tokens s
    Parser.run (8 * tokens.length + 8)
      { tokens := tokens, stopped := fault.getD .endOfStream }

end TracedService.Yaml
