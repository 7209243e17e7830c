import TracedService.Text.Ascii
import TracedService.Yaml.Source

/-! Block scalars: indented lines behind `|`, where breaks stay, or `>`, where lines are folded. An
indicator of the header says which line breaks at the end are kept. -/

namespace TracedService.Yaml.Block

inductive Chomping where
  | clip
  | strip
  | keep
  deriving DecidableEq, Repr

structure Header where
  chomping : Chomping := .clip
  indent : Nat := 0
  deriving DecidableEq, Repr

def chomping : List Char → Chomping × Nat
  | '+' :: _ => (.keep, 1)
  | '-' :: _ => (.strip, 1)
  | _ => (.clip, 0)

def indentation : List Char → Except Fault (Nat × Nat)
  | c :: _ =>
    if c = '0' then .error .zeroIndentation
    else if Text.isDigit c then .ok (Text.digitValue c, 1)
    else .ok (0, 0)
  | [] => .ok (0, 0)

def header (s : List Char) : Except Fault (Header × Nat) := do
  let (sign, n) := chomping s
  let (digit, k) ← indentation (s.drop n)
  if n = 0 && k = 1 then
    let (sign, n) := chomping (s.drop 1)
    return (⟨sign, digit⟩, n + 1)
  else return (⟨sign, digit⟩, n + k)

def headerEnd (m : Mark) (s : List Char) : Except Fault Cursor :=
  let blanks := s.takeWhile isBlank
  let r := s.dropWhile isBlank
  let comment := match r with
    | '#' :: _ => r.takeWhile fun c => !isBreak c
    | _ => []
  match r.drop comment.length with
  | [] => .ok ⟨m.along (blanks.length + comment.length), []⟩
  | c :: rest => if isBreak c then .ok ⟨m.advance c, rest⟩ else .error .blockHeader

/-- Lists have their latest character first. `inLine` says that a line of text is being read;
`first` is the break behind the latest line and `later` are the breaks that follow it. -/
structure State where
  inLine : Bool := false
  indent : Nat
  deepest : Nat := 0
  text : List Char := []
  first : Option Char := none
  later : List Char := []
  leadingBlank : Bool := false
  deriving DecidableEq, Repr

inductive Action where
  | stop
  | next (s : State)
  deriving DecidableEq, Repr

/-- The breaks before a line that begins with `c`: a line feed between two lines without a blank
at their start is folded. -/
def join (literal : Bool) (s : State) (c : Char) : List Char :=
  let start :=
    if !literal && s.first = some '\n' && !s.leadingBlank && !isBlank c then
      if s.later.isEmpty then ' ' :: s.text else s.text
    else s.first.toList ++ s.text
  s.later ++ start

def step (literal : Bool) (least : Nat) (s : State) (m : Mark) (c : Char) :
    Except Fault Action :=
  if s.inLine then
    if isBreak c then .ok (.next { s with inLine := false, first := some c, later := [] })
    else .ok (.next { s with text := c :: s.text })
  else
    let inMargin := s.indent = 0 || m.column < s.indent
    if inMargin && c == ' ' then .ok (.next s)
    else if inMargin && c == '\t' then .error .blockTab
    else
      let deepest := max s.deepest m.column
      if isBreak c then .ok (.next { s with deepest := deepest, later := c :: s.later })
      else
        let indent := if s.indent = 0 then max deepest least else s.indent
        if m.column = indent then
          .ok (.next { s with
            inLine := true, indent := indent, text := c :: join literal s c,
            first := none, later := [], leadingBlank := isBlank c })
        else .ok .stop

def finish (chomping : Chomping) (s : State) : List Char :=
  let kept := match chomping with
    | .clip => s.first.toList
    | .strip => []
    | .keep => s.later ++ s.first.toList
  (kept ++ s.text).reverse

def run (literal : Bool) (least : Nat) (chomping : Chomping) (s : State) (m : Mark) :
    List Char → Except Fault (List Char × Cursor)
  | [] => .ok (finish chomping s, ⟨m, []⟩)
  | c :: r =>
    match step literal least s m c with
    | .error f => .error f
    | .ok .stop => .ok (finish chomping s, ⟨m, c :: r⟩)
    | .ok (.next s) => run literal least chomping s (m.advance c) r

/-- The scalar behind the indicator, at a place inside a block indented by `parent` columns, or by
none. -/
def read (literal : Bool) (parent : Option Nat) (m : Mark) (s : List Char) :
    Except Fault (List Char × Cursor) := do
  let (h, n) ← header s
  let start ← headerEnd (m.along n) (s.drop n)
  let indent := if h.indent = 0 then 0 else (parent.getD 0) + h.indent
  let least := match parent with
    | some p => p + 1
    | none => 1
  run literal least h.chomping { indent := indent } start.mark start.rest

end TracedService.Yaml.Block
