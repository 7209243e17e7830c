import TracedService.Text.Ascii

/-! Texts for terminals: characters that are shown, and commands, which begin with an escape
character. A text that goes elsewhere keeps what is shown and loses the commands. -/

namespace TracedService.Text.Terminal

inductive State where
  | shown
  | escape
  /-- Marks have followed the escape character; one more character ends the command. -/
  | marked
  | sequence
  | bellEnded
  | device
  deriving DecidableEq, Repr

def isBlank (c : Char) : Bool :=
  c == ' ' || c == '\t' || c == '\n' || c == '\x0c' || c == '\x0d'

def isControl (c : Char) : Bool :=
  c.toNat < 32 || c.toNat = 127

def opened (c : Char) : State :=
  if ' ' ≤ c && c ≤ '/' then .marked
  else if c = '[' then .sequence
  else if c = ']' then .bellEnded
  else if c = 'P' || c = 'X' || c = '^' || c = '_' then .device
  else .shown

def State.next (s : State) (c : Char) : State :=
  if c = '\x18' || c = '\x1a' then .shown
  else if c = '\x1b' then .escape
  else
    match s with
    | shown => .shown
    | escape => if isControl c || !isAscii c then .escape else opened c
    | marked => if '0' ≤ c && c ≤ '~' then .shown else .marked
    | sequence => if '@' ≤ c && c ≤ '~' then .shown else .sequence
    | bellEnded => if c = '\x07' then .shown else .bellEnded
    | device => .device

/-- A character that is shown, which ends a command. Line ends and tabs are shown even in the middle
of a short command. -/
def State.shows (s : State) (c : Char) : Bool :=
  match s with
  | shown => isBlank c || !isControl c
  | escape | marked | sequence => isControl c && isBlank c
  | bellEnded | device => false

def shownFrom : State → List Char → List Char
  | _, [] => []
  | s, c :: r => if s.shows c then c :: shownFrom .shown r else shownFrom (s.next c) r

def shown (text : String) : String :=
  String.ofList (shownFrom .shown text.toList)

end TracedService.Text.Terminal
