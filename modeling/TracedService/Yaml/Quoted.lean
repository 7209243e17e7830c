import TracedService.Text.Hex
import TracedService.Yaml.Folding

/-! Quoted scalars. Between single quotes a quote is written twice; between double quotes a
backslash begins an escape. Lines are folded in both. -/

namespace TracedService.Yaml.Quoted

inductive Mode where
  | words
  | gap (g : Gap)
  | secondQuote
  | escape
  /-- Hexadecimal digits to come, and the number read so far. -/
  | code (left value : Nat)
  deriving DecidableEq, Repr

structure State where
  mode : Mode := .words
  text : List Char := []
  deriving DecidableEq, Repr

def escaped? (c : Char) : Option Char :=
  ([('0', '\u0000'), ('a', '\u0007'), ('b', '\u0008'), ('t', '\t'), ('\t', '\t'), ('n', '\n'),
    ('v', '\u000B'), ('f', '\u000C'), ('r', '\r'), ('e', '\u001B'), (' ', ' '), ('"', '"'),
    ('/', '/'), ('\\', '\\'), ('N', '\u0085'), ('_', '\u00A0'), ('L', '\u2028'),
    ('P', '\u2029')].find? (·.1 == c)).map (·.2)

def codeLength? (c : Char) : Option Nat :=
  ([('x', 2), ('u', 4), ('U', 8)].find? (·.1 == c)).map (·.2)

def ofCode? (n : Nat) : Option Char :=
  if n < 0xD800 || (0xDFFF < n && n ≤ 0x10FFFF) then some (Char.ofNat n) else none

inductive Action where
  | close
  | next (s : State)
  deriving DecidableEq, Repr

def word (single : Bool) (text : List Char) (c : Char) (r : List Char) : Action :=
  if isWhite c then .next ⟨.gap (Gap.add {} c), text⟩
  else if single then
    if c = '\'' then if r.head? = some '\'' then .next ⟨.secondQuote, text⟩ else .close
    else .next ⟨.words, c :: text⟩
  else if c = '"' then .close
  else if c = '\\' then .next ⟨.escape, text⟩
  else .next ⟨.words, c :: text⟩

def step (single : Bool) (s : State) (m : Mark) (c : Char) (r : List Char) :
    Except Fault Action :=
  match s.mode with
  | .words => .ok (word single s.text c r)
  | .secondQuote => .ok (.next ⟨.words, c :: s.text⟩)
  | .gap g =>
    if isWhite c then .ok (.next ⟨.gap (g.add c), s.text⟩)
    else if m.column = 0 && isDocumentIndicator (c :: r) then .error .quotedIndicator
    else .ok (word single (g.text.reverse ++ s.text) c r)
  | .escape =>
    if isBreak c then .ok (.next ⟨.gap { broken := true }, s.text⟩)
    else
      match escaped? c, codeLength? c with
      | some x, _ => .ok (.next ⟨.words, x :: s.text⟩)
      | none, some n => .ok (.next ⟨.code n 0, s.text⟩)
      | none, none => .error .unknownEscape
  | .code left value =>
    match Text.Hex.value? c with
    | none => .error .escapeDigits
    | some d =>
      let v := value * 16 + d
      if 1 < left then .ok (.next ⟨.code (left - 1) v, s.text⟩)
      else
        match ofCode? v with
        | some x => .ok (.next ⟨.words, x :: s.text⟩)
        | none => .error .escapeCode

def Mode.unfinished : Mode → Fault
  | .escape => .unknownEscape
  | .code _ _ => .escapeDigits
  | _ => .quotedEnd

/-- The text up to the closing quote, and the place behind it. A gap before the quote counts. -/
def run (single : Bool) (s : State) (m : Mark) : List Char → Except Fault (List Char × Cursor)
  | [] => .error s.mode.unfinished
  | c :: r =>
    match step single s m c r with
    | .error f => .error f
    | .ok .close =>
      let gap := match s.mode with
        | .gap g => g.text
        | _ => []
      .ok (s.text.reverse ++ gap, ⟨m.advance c, r⟩)
    | .ok (.next s) => run single s (m.advance c) r

end TracedService.Yaml.Quoted
