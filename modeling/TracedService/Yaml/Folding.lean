import TracedService.Yaml.Source

/-! White space between the words of a scalar that may run over several lines. Blanks within a line
stay; a single line break becomes a space, and of several breaks the first is dropped. -/

namespace TracedService.Yaml

/-- White space read so far, latest character first in both lists. `first` is the break that ended
the first line, `broken` says that a line has ended. -/
structure Gap where
  broken : Bool := false
  blanks : List Char := []
  first : Option Char := none
  later : List Char := []
  deriving DecidableEq, Repr

namespace Gap

def add (g : Gap) (c : Char) : Gap :=
  if isBlank c then if g.broken then g else { g with blanks := c :: g.blanks }
  else if g.broken then { g with later := c :: g.later }
  else { g with broken := true, blanks := [], first := some c }

def text (g : Gap) : List Char :=
  if g.broken then
    if g.first = some '\n' then if g.later.isEmpty then [' '] else g.later.reverse
    else g.first.toList ++ g.later.reverse
  else g.blanks.reverse

end Gap

end TracedService.Yaml
