import TracedService.Number.Literal
import TracedService.Text.Ascii
import TracedService.Text.Hex

/-! The patterns for the values of fields: a truth value, a number or a regular expression. Only
whether an expression is well formed matters here. -/

namespace TracedService.Log.Pattern

/-- What the characters so far have left open. `repeatable` says that something stands in front that
can be repeated, `groups` counts open parentheses. -/
structure State where
  groups : Nat := 0
  repeatable : Bool := false
  deriving DecidableEq, Repr

/-- What follows a class in brackets, behind its opening bracket; `none` if it stays open. A closing
bracket at the start is a member. -/
def afterClass? : Nat → List Char → Option (List Char)
  | 0, _ => none
  | fuel + 1, s =>
    let s := match s with
      | '^' :: r => r
      | _ => s
    let s := match s with
      | ']' :: r => r
      | _ => s
    members fuel s
where
  members : Nat → List Char → Option (List Char)
    | 0, _ => none
    | _, [] => none
    | fuel + 1, c :: r =>
      if c = ']' then some r
      else if c = '\\' then members fuel (r.drop 1)
      else if c = '[' then (afterClass? fuel r).bind (members fuel)
      else
        match r with
        | '-' :: d :: rest =>
          if "]-[\\".toList.contains d then members fuel r
          else if d < c then none
          else members fuel rest
        | _ => members fuel r

def escapable : String := "dDsSwWAzaftnrv"

/-- What follows an escape, behind its backslash: a mark of ASCII, a letter with a meaning, or the
number of a character in hexadecimal digits. Edges of words cannot be asked for. -/
def afterEscape? : List Char → Option (List Char)
  | 'x' :: a :: b :: r =>
    if (Text.Hex.value? a).isSome && (Text.Hex.value? b).isSome then some r else none
  | c :: r =>
    let isMark := Text.isAscii c && !(Text.isLetter c || Text.isDigit c || c == '<' || c == '>')
    if isMark || escapable.toList.contains c then some r else none
  | [] => none

/-- What a question mark behind an opening parenthesis begins: whether it is a group, and what
follows. Flags alone are none. -/
def groupStart? (s : List Char) : Option (Bool × List Char) :=
  let flags := s.takeWhile fun c => "imsUuxR-".toList.contains c
  match s, s.drop flags.length with
  | 'P' :: '<' :: r, _ | '<' :: r, _ =>
    let name := r.takeWhile fun c => Text.isLetter c || Text.isDigit c || c == '_'
    match r.drop name.length with
    | '>' :: rest => if name.isEmpty then none else some (true, rest)
    | _ => none
  | _, ':' :: r => some (true, r)
  | _, ')' :: r => if flags.isEmpty then none else some (false, r)
  | _, _ => none

def expression : Nat → State → List Char → Bool
  | 0, _, _ => false
  | _, s, [] => s.groups == 0
  | fuel + 1, s, c :: r =>
    if c = '(' then
      match r with
      | '?' :: r =>
        match groupStart? r with
        | some (true, r) => expression fuel ⟨s.groups + 1, false⟩ r
        | some (false, r) => expression fuel { s with repeatable := false } r
        | none => false
      | _ => expression fuel ⟨s.groups + 1, false⟩ r
    else if c = ')' then 0 < s.groups && expression fuel ⟨s.groups - 1, true⟩ r
    else if c = '[' then
      match afterClass? fuel r with
      | some r => expression fuel { s with repeatable := true } r
      | none => false
    else if c = '|' then expression fuel { s with repeatable := false } r
    else if c = '*' || c = '+' || c = '?' then s.repeatable && expression fuel s r
    else if c = '\x7b' then false
    else if c = '\\' then
      match afterEscape? r with
      | some r => expression fuel { s with repeatable := true } r
      | none => false
    else expression fuel { s with repeatable := true } r

def isNumber (s : List Char) : Bool :=
  (Number.read? s).isSome

def isValid (s : List Char) : Bool :=
  isNumber s || expression (s.length + 1) {} s

end TracedService.Log.Pattern
