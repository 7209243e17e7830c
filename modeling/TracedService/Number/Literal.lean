import TracedService.Number.Binary64
import TracedService.Text.Ascii

/-! Number texts: the grammar that a whole text has to match, and the longest number at the start
of a text. A number is an optional sign followed by `inf`, `infinity`, `nan` in any letter case, or
by digits with at most one point, at least one digit, and an optional exponent. -/

namespace TracedService.Number

open Text (isDigit lower digitsValue)

def dropWord? : List Char → List Char → Option (List Char)
  | [], s => some s
  | _ :: _, [] => none
  | w :: ws, c :: s => if lower c = w then dropWord? ws s else none

def sign : List Char → Bool × List Char
  | '-' :: s => (true, s)
  | '+' :: s => (false, s)
  | s => (false, s)

/-- Whole digits and fraction digits at the start, and the rest; a point belongs to the number only
if a digit stands on one side of it. -/
def mantissa (s : List Char) : List Char × List Char × List Char :=
  let whole := s.takeWhile isDigit
  match s.dropWhile isDigit with
  | '.' :: r =>
    let fraction := r.takeWhile isDigit
    if whole.isEmpty && fraction.isEmpty then ([], [], s)
    else (whole, fraction, r.dropWhile isDigit)
  | r => (whole, [], r)

def exponent (s : List Char) : Int × List Char :=
  match s with
  | c :: r =>
    if lower c = 'e' then
      let (negative, r) := sign r
      let ds := r.takeWhile isDigit
      if ds.isEmpty then (0, s)
      else (if negative then -(digitsValue ds : Int) else digitsValue ds, r.dropWhile isDigit)
    else (0, s)
  | [] => (0, s)

/-- The longest number at the start of the text, and the text behind it. -/
def leading? (s : List Char) : Option (Binary64 × List Char) :=
  let (negative, r) := sign s
  match dropWord? "infinity".toList r with
  | some rest => some (.infinite negative, rest)
  | none =>
    match dropWord? "inf".toList r with
    | some rest => some (.infinite negative, rest)
    | none =>
      match dropWord? "nan".toList r with
      | some rest => some (.nan, rest)
      | none =>
        let (whole, fraction, r) := mantissa r
        if whole.isEmpty && fraction.isEmpty then none
        else
          let (e, rest) := exponent r
          some (.ofDecimal negative (digitsValue (whole ++ fraction)) (e - fraction.length), rest)

def read? (s : List Char) : Option Binary64 :=
  let (negative, r) := sign s
  let word := r.map lower
  if word = "inf".toList || word = "infinity".toList then some (.infinite negative)
  else if word = "nan".toList then some .nan
  else
    let (whole, fraction, r) := mantissa r
    if whole.isEmpty && fraction.isEmpty then none
    else
      let (e, rest) := exponent r
      if rest.isEmpty then
        some (.ofDecimal negative (digitsValue (whole ++ fraction)) (e - fraction.length))
      else none

end TracedService.Number
