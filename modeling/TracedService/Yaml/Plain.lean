import TracedService.Yaml.Folding

/-! Plain scalars: words without quotes. A colon before white space, a comment, a line that is not
indented, and inside brackets also the brackets and commas end them. -/

namespace TracedService.Yaml.Plain

def isFlowIndicator (c : Char) : Bool :=
  c == ',' || c == '[' || c == ']' || c == '\x7b' || c == '\x7d'

/-- The character ends the scalar; `flow` says that the scalar stands inside brackets. -/
def ends (flow : Bool) (c : Char) (r : List Char) : Bool :=
  (c == ':' && endsWord r) || (flow && isFlowIndicator c)

def isStrayColon (flow : Bool) (c : Char) (r : List Char) : Bool :=
  flow && c == ':' &&
    match r with
    | d :: _ => isFlowIndicator d || d == '?'
    | [] => false

structure State where
  text : List Char := []
  gap : Option Gap := none
  deriving DecidableEq, Repr

inductive Action where
  | stop
  | next (s : State)
  deriving DecidableEq, Repr

def word (flow : Bool) (text : List Char) (c : Char) (r : List Char) : Except Fault Action :=
  if isStrayColon flow c r then .error .plainColon
  else if ends flow c r then .ok .stop
  else .ok (.next ⟨c :: text, none⟩)

/-- Lines have to be indented to column `indent` unless the scalar stands inside brackets. -/
def step (flow : Bool) (indent : Nat) (s : State) (m : Mark) (c : Char) (r : List Char) :
    Except Fault Action :=
  match s.gap with
  | none =>
    if isWhite c then .ok (.next { s with gap := some (Gap.add {} c) }) else word flow s.text c r
  | some g =>
    if isWhite c then
      if g.broken && m.column < indent && c == '\t' then .error .plainTab
      else .ok (.next { s with gap := some (g.add c) })
    else if (!flow && m.column < indent) || (m.column = 0 && isDocumentIndicator (c :: r)) ||
        c == '#' then .ok .stop
    else word flow (g.text.reverse ++ s.text) c r

/-- The text, whether a line ended behind it, and the place after the white space behind it. -/
def run (flow : Bool) (indent : Nat) (s : State) (m : Mark) :
    List Char → Except Fault (List Char × Bool × Cursor)
  | [] => .ok (s.text.reverse, (s.gap.map Gap.broken).getD false, ⟨m, []⟩)
  | c :: r =>
    match step flow indent s m c r with
    | .error f => .error f
    | .ok .stop => .ok (s.text.reverse, (s.gap.map Gap.broken).getD false, ⟨m, c :: r⟩)
    | .ok (.next s) => run flow indent s (m.advance c) r

end TracedService.Yaml.Plain
