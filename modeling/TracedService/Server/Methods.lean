import TracedService.Server.Layer

/-! What a path offers: an endpoint for each method, and one for all other methods. -/

namespace TracedService.Server

inductive RouterFault where
  | badPattern (path : String)
  | badPlace (path : String)
  | conflict (path : String)
  | methodTwice (method path : String)
  | catchAllTwice (path : String)
  deriving DecidableEq, Repr

/-- `otherwise` serves the methods without an endpoint of their own. As long as it is the standard
refusal, `allow` lists what would be served. -/
structure Methods where
  served : List (String × Endpoint) := []
  otherwise : Endpoint := ⟨Handler.methodNotAllowed, []⟩
  standard : Bool := true
  allow : List String := []

namespace Methods

def known : List String :=
  ["GET", "HEAD", "POST", "OPTIONS", "PATCH", "PUT", "DELETE", "TRACE", "CONNECT"]

def allowed (method : String) : List String :=
  if method = "GET" then ["GET", "HEAD"] else [method]

def one (method : String) (h : Handler) : Methods where
  served := [(method, ⟨h, []⟩)]
  allow := allowed method

def any (h : Handler) : Methods where
  otherwise := ⟨h, []⟩
  standard := false

def addLayer (l : Layer) (m : Methods) : Methods :=
  { m with
    served := m.served.map fun (name, e) => (name, e.addLayer l)
    otherwise := m.otherwise.addLayer l }

def merge (path : String) (a b : Methods) : Except RouterFault Methods := do
  match b.served.find? fun (name, _) => a.served.any (·.1 == name) with
  | some (name, _) => throw (.methodTwice name path)
  | none => pure ()
  if !a.standard && !b.standard then throw (.catchAllTwice path)
  return {
    served := a.served ++ b.served
    otherwise := if a.standard then b.otherwise else a.otherwise
    standard := a.standard && b.standard
    allow := a.allow ++ b.allow }

/-- A head is made from what would be got, if there is nothing of its own. -/
def endpoint? (m : Methods) (method : String) : Option Endpoint :=
  let own := m.served.find? (·.1 == method)
  let served := if method = "HEAD" then own <|> m.served.find? (·.1 == "GET") else own
  served.map (·.2)

def withAllow (m : Methods) (response : Http.Response) : Http.Response :=
  if m.standard then { response with allow := response.allow <|> some (",".intercalate m.allow) }
  else response

def service (t : Tracing) (m : Methods) : Service := fun i r =>
  match m.endpoint? i.request.method with
  | some e => e.service t i r
  | none =>
    let (response, r) := m.otherwise.service t i r
    (m.withAllow response, r)

end Methods

end TracedService.Server
