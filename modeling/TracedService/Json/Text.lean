import TracedService.Text.Hex
import TracedService.Text.Split

/-! Writing JSON objects. -/

namespace TracedService.Json

def escape (c : Char) : List Char :=
  if c = '"' then ['\\', '"']
  else if c = '\\' then ['\\', '\\']
  else if c = '\u0008' then ['\\', 'b']
  else if c = '\u000C' then ['\\', 'f']
  else if c = '\n' then ['\\', 'n']
  else if c = '\r' then ['\\', 'r']
  else if c = '\t' then ['\\', 't']
  else if c.toNat < 32 then ['\\', 'u'] ++ Text.Hex.padded 4 c.toNat
  else [c]

def quoted (s : String) : List Char :=
  '"' :: s.toList.flatMap escape ++ ['"']

def object (ms : List (String × List Char)) : List Char :=
  '\x7b' :: Text.joinWith ',' (ms.map fun (k, v) => quoted k ++ ':' :: v) ++ ['\x7d']

def objectText (ms : List (String × String)) : String :=
  String.ofList (object (ms.map fun (k, v) => (k, quoted v)))

end TracedService.Json
