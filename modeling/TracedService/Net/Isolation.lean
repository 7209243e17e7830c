import TracedService.Net.Url

/-! A machine that is connected to no network: why a connection from it to a host fails. -/

namespace TracedService.Isolation

/-- A name that other machines could be asked about: short labels of letters, digits, dashes and
underscores, of which none begins with a dash. -/
def isAskable (name : List Char) : Bool :=
  let isLabel := fun label : List Char =>
    !label.isEmpty && label.length < 64 && label.head? ≠ some '-' &&
      label.all fun c => Text.isLetter c || Text.isDigit c || c == '-' || c == '_'
  let labels := Text.splitTerminated '.' name
  labels.all isLabel && name.length < 254

def ownName : List Char :=
  "localhost".toList

def noRoute : String := "Network is unreachable (os error 101)"

def noSource : String := "Cannot assign requested address (os error 99)"

def noInterface : String := "Invalid argument (os error 22)"

/-- Why an address of version 6 is not reached: one that belongs to a link says nothing without the
link, one for many machines has no way to them, an address of version 4 in the other form is treated
as such, and for any other there is no address to call from. -/
def reason6 (groups : List Nat) : String :=
  match groups with
  | [0, 0, 0, 0, 0, 0xFFFF, _, _] => noRoute
  | first :: _ =>
    if 0xFE80 ≤ first && first < 0xFEC0 then noInterface
    else if 0xFF00 ≤ first then noRoute
    else noSource
  | [] => noSource

def reason : Option Host → String
  | some (.name s) =>
    if s = ownName then "tcp connect error: " ++ noRoute
    else "dns error: failed to lookup address information: " ++
      if isAskable s then "Temporary failure in name resolution" else "Name or service not known"
  | some (.address6 groups) => "tcp connect error: " ++ reason6 groups
  | some (.address4 _) | none => "tcp connect error: " ++ noRoute

end TracedService.Isolation
