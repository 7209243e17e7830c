import TracedService.Number.Literal
import TracedService.Number.Shortest
import TracedService.Text.Quoted
import TracedService.Yaml.Event

/-! What a scalar is where no type is asked for: nothing, a truth value, a number or text. Quotes
make text; a tag of the standard schema asks for its type. -/

namespace TracedService.Yaml

inductive Value where
  | null
  | boolean (b : Bool)
  | integer (n : Int)
  | wideInteger (n : Int)
  | float (x : Binary64)
  | text (s : List Char)
  deriving DecidableEq, Repr

namespace Value

/-- How a value of the wrong type is spoken of. -/
def found : Value → String
  | null => "unit value"
  | boolean b => "boolean \x60" ++ (if b then "true" else "false") ++ "\x60"
  | integer n => "integer \x60" ++ toString n ++ "\x60"
  | wideInteger n =>
    "integer \x60" ++ toString n ++ "\x60 as " ++ if 0 ≤ n then "u128" else "i128"
  | float x => "floating point \x60" ++ String.ofList x.text ++ "\x60"
  | text s => "string " ++ String.ofList (Text.Quoted.text s)

end Value

namespace Scalar

def isNull (s : List Char) : Bool :=
  ["null", "Null", "NULL", "~"].any fun w => w.toList == s

def boolean? (s : List Char) : Option Bool :=
  if ["true", "True", "TRUE"].any fun w => w.toList == s then some true
  else if ["false", "False", "FALSE"].any fun w => w.toList == s then some false
  else none

def natural? (radix : Nat) (s : List Char) : Option Nat :=
  if s.isEmpty then none
  else s.foldl (fun acc c => do
    let n ← acc
    let d ← Text.Hex.value? c
    if d < radix then some (n * radix + d) else none) (some 0)

/-- Digits with a zero in front are text. -/
def isZeroPadded (s : List Char) : Bool :=
  let ds := match s with
    | '-' :: r | '+' :: r => r
    | _ => s
  match ds with
  | '0' :: d :: r => (d :: r).all Text.isDigit
  | _ => false

def radixes : List (String × Nat) :=
  [("0x", 16), ("0o", 8), ("0b", 2)]

def marked? (s : List Char) : Option Nat :=
  radixes.findSome? fun (mark, radix) =>
    (Text.dropStart? mark.toList s).bind (natural? radix)

def unsigned? (s : List Char) : Option Nat :=
  let body := match s with
    | '+' :: r => r
    | _ => s
  match marked? body with
  | some n => some n
  | none => if isZeroPadded s then none else natural? 10 body

def negative? (s : List Char) : Option Nat :=
  match s with
  | '-' :: r =>
    match marked? r with
    | some n => some n
    | none => if isZeroPadded s then none else natural? 10 r
  | _ => none

def integer? (s : List Char) : Option Value :=
  match unsigned? s with
  | some n =>
    if n < Nat.pow 2 64 then some (.integer n)
    else if n < Nat.pow 2 128 then some (.wideInteger n)
    else none
  | none =>
    match negative? s with
    | some n =>
      if n ≤ Nat.pow 2 63 then some (.integer (-n))
      else if n ≤ Nat.pow 2 127 then some (.wideInteger (-n))
      else none
    | none => none

def float? (s : List Char) : Option Binary64 :=
  let body := match s with
    | '+' :: '+' :: _ | '+' :: '-' :: _ => none
    | '+' :: r => some r
    | _ => some s
  match body with
  | none => none
  | some body =>
    if [".inf", ".Inf", ".INF"].any fun w => w.toList == body then some (.infinite false)
    else if ["-.inf", "-.Inf", "-.INF"].any fun w => w.toList == s then some (.infinite true)
    else if [".nan", ".NaN", ".NAN"].any fun w => w.toList == s then some .nan
    else
      match Number.read? body with
      | some (.finite negative units) => some (.finite negative units)
      | _ => none

def untagged (s : List Char) : Value :=
  if s.isEmpty || isNull s then .null
  else
    match boolean? s, integer? s, if isZeroPadded s then none else float? s with
    | some b, _, _ => .boolean b
    | none, some v, _ => v
    | none, none, some x => .float x
    | none, none, none => .text s

def schema (name : String) : Text.Utf8.Bytes :=
  Text.Utf8.encodeText ("tag:yaml.org,2002:" ++ name)

def value (s : Scalar) : Except String Value :=
  let plain := if s.style = .plain then untagged s.text else .text s.text
  match s.tag with
  | none => .ok plain
  | some tag =>
    let orElse (v : Option Value) (name : String) : Except String Value :=
      match v with
      | some v => .ok v
      | none => .error name
    if tag = schema "bool" then orElse ((boolean? s.text).map .boolean) "a boolean"
    else if tag = schema "int" then orElse (integer? s.text) "an integer"
    else if tag = schema "float" then orElse ((float? s.text).map .float) "a float"
    else if tag = schema "null" then orElse (if isNull s.text then some .null else none) "null"
    else if tag.head? = some 0x21 && s.style = .plain then .ok plain
    else .ok (.text s.text)

/-- The number that a scalar is where a count is asked for. Quoted text is no number, whatever its
tag; in a literal block the tag makes it one. -/
def count? (s : Scalar) : Option Nat :=
  if s.style = .plain || (s.style = .literal && s.tag = some (schema "int")) then
    (unsigned? s.text).filter (· < Nat.pow 2 64)
  else none

/-- Whether a scalar stands for the absence of a value: empty text and the words for nothing do,
quotes and other tags do not. -/
def isAbsent (s : Scalar) : Except String Bool :=
  if s.style ≠ .plain then .ok false
  else
    match s.tag with
    | none => .ok (s.text.isEmpty || isNull s.text)
    | some tag =>
      if tag = schema "null" then if isNull s.text then .ok true else .error "null"
      else .ok false

end Scalar

end TracedService.Yaml
