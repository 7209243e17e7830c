import TracedService.Text.Blank
import TracedService.Text.Percent
import TracedService.Text.Split
import TracedService.Trace.Baggage

/-! The `baggage` header: members joined by commas, each a key and a value around an equals sign,
with properties behind semicolons. Keys and values are percent-encoded, properties are not. -/

namespace TracedService.BaggageHeader

/-- Properties decoded, without blanks around each, the undecodable ones left out. -/
def properties (ps : List (List Char)) : List Char :=
  Text.trim (Text.joinWith ';' ((ps.filterMap Text.Percent.decode?).map Text.trim))

def member? (s : List Char) : Option BaggageEntry :=
  match Text.splitOn ';' s with
  | [] => none
  | pair :: props =>
    match Text.splitOn '=' pair with
    | name :: value :: _ => do
      let name ← Text.Percent.decode? name
      let value ← Text.Percent.decode? value
      some ⟨Text.trim name, Text.trim value, properties props⟩
    | _ => none

def read (header : List Char) : List BaggageEntry :=
  (Text.splitOn ',' header).filterMap member?

/-- Characters that stand for themselves: visible ASCII but the five that the header's own form
uses. -/
def isPlain (c : Char) : Bool :=
  32 < c.toNat && c.toNat < 127 && c != '"' && c != ';' && c != ',' && c != '='

def writeEntry (e : BaggageEntry) : List Char :=
  let props := Text.trim e.properties
  Text.Percent.encode isPlain (Text.trim e.key) ++ '=' ::
    Text.Percent.encode isPlain (Text.trim e.value) ++
      if props.isEmpty then [] else ';' :: props

def write (b : Baggage) : List Char :=
  Text.joinWith ',' (b.entries.map writeEntry)

end TracedService.BaggageHeader
