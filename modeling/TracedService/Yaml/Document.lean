import TracedService.Yaml.Event

/-! The first document of a YAML stream: its nodes in order, and where the aliases lead. Aliases are
numbered by the count of distinct anchor names before them, so a name that is given twice shares its
number with a later one. -/

namespace TracedService.Yaml

inductive Item where
  | alias (number : Nat)
  | scalar (s : Scalar)
  | sequenceStart
  | sequenceEnd
  | mappingStart
  | mappingEnd
  deriving DecidableEq, Repr

structure Document where
  items : List Item
  targets : List (Nat × Nat)
  /-- Why the stream cannot be read to the end of the document. -/
  fault : Option Fault
  alone : Bool
  deriving Repr

namespace Document

/-- What has been collected; items have their latest first. -/
structure Partial where
  names : List (List Char × Nat) := []
  targets : List (Nat × Nat) := []
  items : List Item := []

def Partial.add (p : Partial) (anchor : Option (List Char)) (item : Item) : Partial :=
  match anchor with
  | none => { p with items := item :: p.items }
  | some a =>
    let n := p.names.length
    ⟨(a, n) :: p.names.filter (·.1 != a), (n, p.items.length) :: p.targets, item :: p.items⟩

def finish (p : Partial) (fault : Option Fault) (rest : List Event) : Document :=
  ⟨p.items.reverse, p.targets, fault, rest.head? == some .streamEnd⟩

/-- The first document of a stream whose events end with the given fault. An alias needs an anchor
before it. -/
def collect (stopped : Fault) (p : Partial) : List Event → Document
  | [] => finish p (some stopped) []
  | e :: es =>
    match e with
    | .documentStart => collect stopped p es
    | .documentEnd => finish p none es
    | .streamEnd => finish p none [.streamEnd]
    | .alias name =>
      match p.names.find? (·.1 == name) with
      | some (_, n) => collect stopped (p.add none (.alias n)) es
      | none => finish p (some .unknownAnchor) []
    | .scalar anchor s => collect stopped (p.add anchor (.scalar s)) es
    | .sequenceStart anchor => collect stopped (p.add anchor .sequenceStart) es
    | .sequenceEnd => collect stopped (p.add none .sequenceEnd) es
    | .mappingStart anchor => collect stopped (p.add anchor .mappingStart) es
    | .mappingEnd => collect stopped (p.add none .mappingEnd) es

def ofText (text : List Char) : Document :=
  let (es, fault) := events text
  collect (fault.getD .endOfStream) {} es

def stopped (d : Document) : Fault :=
  d.fault.getD .endOfStream

def target (d : Document) (number : Nat) : List Item :=
  match d.targets.find? (·.1 == number) with
  | some (_, position) => d.items.drop position
  | none => []

def afterNode? (depth : Nat) : List Item → Option (List Item)
  | [] => none
  | item :: rest =>
    match item with
    | .alias _ | .scalar _ => if depth = 0 then some rest else afterNode? depth rest
    | .sequenceStart | .mappingStart => afterNode? (depth + 1) rest
    | .sequenceEnd | .mappingEnd => if depth ≤ 1 then some rest else afterNode? (depth - 1) rest

end Document

end TracedService.Yaml
