import TracedService.Json.Text
import TracedService.Log.Event
import TracedService.Number.Shortest
import TracedService.Text.Hex
import TracedService.Text.Quoted

/-! The written forms of an event: one line of JSON, or one line for a reader. -/

namespace TracedService.Log

inductive Format where
  | json
  | pretty
  deriving DecidableEq, Repr

def Format.ofName (s : String) : Format :=
  if s = "pretty" then pretty else json

structure Line where
  event : Event
  span : Option String := none
  deriving DecidableEq, Repr

namespace Value

def prettyText : Value → String
  | text s => s
  | quoted s => String.ofList (Text.Quoted.text s.toList)
  | number x => String.ofList (x.compactText Binary64.plainStyle)
  | flag b => if b then "true" else "false"

def jsonText : Value → List Char
  | text s | quoted s => Json.quoted s
  | number x => x.compactText Binary64.jsonStyle
  | flag b => (if b then "true" else "false").toList

end Value

namespace Line

/-- A character of a message for a reader: what a terminal would obey is spelled out. -/
def shown (c : Char) : List Char :=
  if ['\x07', '\x08', '\x0c', '\x1b', '\x7f'].contains c then
    '\\' :: 'x' :: Text.Hex.padded 2 c.toNat
  else if 0x80 ≤ c.toNat && c.toNat ≤ 0x9F then
    ['\\', 'u', '\x7b'] ++ Text.Quoted.hexDigits c.toNat ++ ['\x7d']
  else [c]

def pretty (l : Line) : String :=
  let message := String.ofList (l.event.message.toList.flatMap shown)
  l.event.level.label ++ " " ++ l.event.target ++ ": " ++
    ", ".intercalate (message :: l.event.fields.map fun (k, v) => k ++ ": " ++ v.prettyText)

def json (l : Line) : String :=
  let fields := ("message", Json.quoted l.event.message) ::
    l.event.fields.map fun (k, v) => (k, v.jsonText)
  String.ofList (Json.object ([("level", Json.quoted l.event.level.label),
    ("fields", Json.object fields), ("target", Json.quoted l.event.target)] ++
    (l.span.map fun s => ("span", Json.object [("name", Json.quoted s)])).toList))

def text (l : Line) : Format → String
  | .json => l.json
  | .pretty => l.pretty

end Line

end TracedService.Log
