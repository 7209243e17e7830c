import TracedService.Log.Event
import TracedService.Log.Pattern
import TracedService.Text.Alphanumeric
import TracedService.Text.Blank
import TracedService.Text.Occurs
import TracedService.Text.Split
import TracedService.Text.Utf8

/-! Which events are written. A filter is a list of directives, each with a threshold for what
happens in targets that begin with a text, in spans of a name, or with a field. The most specific
directive decides, unless a span lets an event pass. -/

namespace TracedService.Log

/-- The least severe level that passes; nothing passes `none`. -/
abbrev Threshold := Option Level

namespace Threshold

def admits (t : Threshold) (l : Level) : Bool :=
  t.any fun m => l.rank ≤ m.rank

def ofNumber? (n : Nat) : Option Threshold :=
  if n = 0 then some none else (Level.all.find? (·.rank == n)).map some

def read? (s : List Char) : Option Threshold :=
  let digits := match s with
    | '+' :: r => r
    | _ => s
  if !digits.isEmpty && digits.all Text.isDigit then ofNumber? (Text.digitsValue digits)
  else
    let name := String.ofList (s.map Text.lower)
    if name = "off" then some none else (Level.all.find? (·.name == name)).map some

end Threshold

structure FieldTest where
  name : List Char
  value : Option (List Char) := none
  deriving DecidableEq, Repr

def FieldTest.read? (s : List Char) : Option FieldTest :=
  match Text.splitOn '=' s with
  | name :: value :: _ => if Pattern.isValid value then some ⟨name, some value⟩ else none
  | _ => some ⟨s, none⟩

/-- A threshold for targets with a beginning, for spans of a name, and for what has a field. -/
structure Directive where
  target : List Char := []
  span : Option (List Char) := none
  field : Option FieldTest := none
  threshold : Threshold := some .trace
  deriving DecidableEq, Repr

namespace Directive

def isStart (c : Char) : Bool :=
  Text.isAlphanumeric c || c == '-' || c == ':' || c == '_'

/-- What a directive has been read to so far, with the place where a word begins. Places are counted
in bytes. -/
inductive Stage where
  | start
  | word (start : Nat)
  | span (start : Nat)
  | field (start : Nat)
  | fieldEnd
  | spanEnd
  | level (start : Nat)
  deriving DecidableEq, Repr

def slice? (text : Text.Utf8.Bytes) (start stop : Nat) : Option (List Char) :=
  Text.Utf8.decode? ((text.take stop).drop start)

def step (text : Text.Utf8.Bytes) (d : Directive) (place : Nat) (c : Char) :
    Stage → Option (Directive × Stage)
  | .start =>
    if c = '[' then some (d, .span (place + 1))
    else if isStart c then some (d, .word place)
    else none
  | .word start =>
    if c = '=' then
      (slice? text start place).map fun t => ({ d with target := t }, .level (place + 1))
    else if c = '[' then
      (slice? text start place).map fun t => ({ d with target := t }, .span (place + 1))
    else some (d, .word start)
  | .span start =>
    if c = ']' then (slice? text start place).map fun s => ({ d with span := some s }, .spanEnd)
    else if c = '\x7b' then
      (slice? text start place).map fun s =>
        ({ d with span := if s.isEmpty then none else some s }, .field (place + 1))
    else some (d, .span start)
  | .field start =>
    if c = '\x7d' then do
      let s ← slice? text start place
      if s.isEmpty then none else some ({ d with field := some (← FieldTest.read? s) }, .fieldEnd)
    else some (d, .field start)
  | .fieldEnd => if c = ']' then some (d, .spanEnd) else none
  | .spanEnd => if c = '=' then some (d, .level (place + 1)) else none
  | .level start => some (d, .level start)

def finish (text : Text.Utf8.Bytes) (d : Directive) : Stage → Option Directive
  | .word start => do
    let s ← slice? text start text.length
    match Threshold.read? s with
    | some t => some { d with threshold := t }
    | none => some { d with target := s }
  | .level start => do
    let s ← slice? text start text.length
    if s.isEmpty then some d else (Threshold.read? s).map fun t => { d with threshold := t }
  | .spanEnd => some d
  | _ => none

def run (text : Text.Utf8.Bytes) (d : Directive) (stage : Stage) (place : Nat) :
    List Char → Option Directive
  | [] => finish text d stage
  | c :: r =>
    match step text d place c stage with
    | some (d, stage) => run text d stage (place + c.utf8Size) r
    | none => none

/-- Words are cut out of the text as it is written, at the places that they have in the text without
the blanks around it: behind blanks a directive says something else, or nothing. -/
def read? (text : List Char) : Option Directive :=
  run (Text.Utf8.encode text) {} .start 0 (Text.trim text)

def hasValue (d : Directive) : Bool :=
  d.field.any (·.value.isSome)

def isForSpans (d : Directive) : Bool :=
  d.span.isSome || d.hasValue

def covers (d : Directive) (target : String) : Bool :=
  Text.startsWith d.target target.toList

def hasFieldIn (d : Directive) (names : List String) : Bool :=
  d.field.all fun f => names.contains (String.ofList f.name)

/-- Of two directives for one event the later one counts if it is as specific: by the length of the
target, then by its field. -/
def yields (a b : Directive) : Bool :=
  if a.target.length = b.target.length then
    match a.field, b.field with
    | some f, some g => f.name < g.name || f.name = g.name
    | some _, none => false
    | none, _ => true
  else a.target.length < b.target.length

end Directive

structure Filter where
  directives : List Directive
  deriving DecidableEq, Repr

structure SpanKind where
  target : String
  name : String
  level : Level
  fields : List String := []
  deriving DecidableEq, Repr

namespace Filter

def nothing : Filter :=
  ⟨[{ threshold := none }]⟩

def errorsOnly : Filter :=
  ⟨[{ threshold := some .error }]⟩

def pieces (s : String) : List (List Char) :=
  (Text.splitOn ',' s.toList).filter (!·.isEmpty)

def strict? (s : String) : Option Filter := do
  let ds ← (pieces s).mapM Directive.read?
  if ds.isEmpty then some nothing else some ⟨ds⟩

/-- Directives that cannot be read are passed over. -/
def lenient (s : String) : Filter :=
  let ds := (pieces s).filterMap Directive.read?
  if ds.isEmpty then errorsOnly else ⟨ds⟩

def thresholdOf (f : Filter) (counts : Directive → Bool) : Threshold :=
  match f.directives.filter fun d => !d.isForSpans && counts d with
  | [] => none
  | d :: ds => (ds.foldl (fun a b => if a.yields b then b else a) d).threshold

/-- Above the widest threshold nothing happens at all; a directive for values leaves everything
open. -/
def mayAdmit (f : Filter) (level : Level) : Bool :=
  f.directives.any fun d => d.hasValue || d.threshold.admits level

/-- The directives for a span, of two equal ones the later. A value is never found. -/
def spanDirectives (f : Filter) (s : SpanKind) : List Directive :=
  let ds := f.directives.filter fun d =>
    (d.span.isSome || d.field.isSome) && d.covers s.target && d.span.all (· == s.name.toList) &&
      d.hasFieldIn s.fields
  ds.foldr (fun d later =>
    if later.any fun e => e.target == d.target && e.span == d.span && e.field == d.field then later
    else d :: later) []

/-- A span that a directive speaks of is watched whatever its level; any other has to pass. -/
def admitsSpan (f : Filter) (s : SpanKind) : Bool :=
  f.mayAdmit s.level &&
    (!(f.spanDirectives s).isEmpty || (f.thresholdOf (·.covers s.target)).admits s.level)

def admits (f : Filter) (level : Level) (target : String) (fields : List String) : Bool :=
  (f.thresholdOf fun d => d.covers target && d.hasFieldIn fields).admits level

def admitsInside (f : Filter) (level : Level) (s : SpanKind) : Bool :=
  (f.spanDirectives s).any fun d => !d.hasValue && d.threshold.admits level

end Filter

end TracedService.Log
