import TracedService.Identity

/-! A resource: attributes with distinct keys that describe where spans come from, and the address
of the schema that the keys follow. -/

namespace TracedService

abbrev Attribute := String × String

structure Resource where
  attributes : List Attribute := []
  schemaUrl : Option String := none
  deriving DecidableEq, Repr, Inhabited

namespace Resource

/-- The attributes once `a` has taken the place of the one with its key, or the last place. -/
def put (attributes : List Attribute) (a : Attribute) : List Attribute :=
  match attributes with
  | [] => [a]
  | x :: xs => if x.1 = a.1 then a :: xs else x :: put xs a

def ofList (attributes : List Attribute) : Resource :=
  ⟨attributes.foldl put [], none⟩

def get? (r : Resource) (key : String) : Option String :=
  (r.attributes.find? (·.1 == key)).map (·.2)

/-- All attributes of both; the second resource wins. -/
def merge (a b : Resource) : Resource :=
  ⟨b.attributes.foldl put a.attributes, a.schemaUrl <|> b.schemaUrl⟩

def schemaAddress : String := "https://opentelemetry.io/schemas/1.21.0"

def ofIdentity (i : Identity) : Resource :=
  { ofList i.attributes with schemaUrl := some schemaAddress }

def telemetry : Resource :=
  ofList [("telemetry.sdk.name", "opentelemetry"), ("telemetry.sdk.language", "rust"),
    ("telemetry.sdk.version", "0.21.2")]

end Resource

end TracedService
