/-! Letters and digits of ASCII. No character outside ASCII belongs to any of these classes. -/

namespace TracedService.Text

def isDigit (c : Char) : Bool :=
  '0' ≤ c && c ≤ '9'

def isSmall (c : Char) : Bool :=
  'a' ≤ c && c ≤ 'z'

def isCapital (c : Char) : Bool :=
  'A' ≤ c && c ≤ 'Z'

def isLetter (c : Char) : Bool :=
  isSmall c || isCapital c

def isAscii (c : Char) : Bool :=
  c.toNat < 128

def lower (c : Char) : Char :=
  if isCapital c then Char.ofNat (c.toNat + 32) else c

def lowered (s : String) : String :=
  String.ofList (s.toList.map lower)

def digitValue (c : Char) : Nat :=
  c.toNat - '0'.toNat

def digitsValue (ds : List Char) : Nat :=
  ds.foldl (fun n c => n * 10 + digitValue c) 0

end TracedService.Text
