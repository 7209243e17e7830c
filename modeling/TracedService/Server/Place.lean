import TracedService.Http.Uri
import TracedService.Text.Split

/-! Places: the paths that routers stand at within other routers. What is served below a place does
not see the part of the path that the place takes up. -/

namespace TracedService.Server.Place

def isParameter (segment : List Char) : Bool :=
  Text.startsWith ['\x7b'] segment && Text.startsWith ['\x7d'] segment.reverse &&
    !Text.startsWith ['\x7b', '\x7b'] segment &&
    !Text.startsWith ['\x7d', '\x7d'] segment.reverse &&
    !Text.startsWith ['\x7b', '*'] segment

def segments (path : List Char) : List (List Char) :=
  (Text.splitOn '/' path).drop 1

/-- How much of a path the segments of a place take up, the slash behind them included; `none` if
the path lies elsewhere. -/
def extent? : List (List Char) → List (List Char) → Option Nat
  | [], [] => some 0
  | _ :: _, [] => some 1
  | [], _ :: _ => none
  | p :: ps, q :: qs =>
    if isParameter q || p = q then (extent? ps qs).map (p.length + 1 + ·)
    else if q.isEmpty then some 1
    else none

def below (place path : List Char) : List Char :=
  match extent? (segments path) (segments place) with
  | none => path
  | some n =>
    match path.drop n with
    | '/' :: rest => '/' :: rest
    | rest => '/' :: rest

/-- A URI as it is handed on below a place. One without a path stays as it is. -/
def uri (place : List Char) : Http.Uri → Http.Uri
  | .origin t => .origin { t with path := below place t.path }
  | .absolute scheme host t => .absolute scheme host { t with path := below place t.fullPath }
  | other => other

end TracedService.Server.Place
