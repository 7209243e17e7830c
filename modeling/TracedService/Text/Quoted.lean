import TracedService.Text.Hidden

/-! Text between double quotes for a reader: quotes, backslashes and characters that do not show are
escaped. -/

namespace TracedService.Text.Quoted

def hexDigits (n : Nat) : List Char :=
  (Nat.toDigits 16 n)

def escape (c : Char) : List Char :=
  if c = '"' || c = '\\' then ['\\', c]
  else if c = '\u0000' then ['\\', '0']
  else if c = '\t' then ['\\', 't']
  else if c = '\n' then ['\\', 'n']
  else if c = '\r' then ['\\', 'r']
  else if isHidden c then ['\\', 'u', '\x7b'] ++ hexDigits c.toNat ++ ['\x7d']
  else [c]

def text (s : List Char) : List Char :=
  '"' :: s.flatMap escape ++ ['"']

end TracedService.Text.Quoted
