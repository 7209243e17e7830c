import TracedService.Export.Endpoint
import TracedService.Http.Headers
import TracedService.Startup.Fault

/-! Exporters: where finished spans go. Every endpoint is checked for its scheme before the address
that results from it is read. -/

namespace TracedService

/-- The span exporter of a backend. -/
inductive Exporter where
  | debugOutput
  | grpc (address : Http.Uri) (timeout : Nat)
  /-- With a source of tokens, every export is authorized. -/
  | http (address : Http.Uri) (timeout : Nat) (headers : Http.Headers) (tokens : Option TokenSource)

namespace Exporter

def address (env : Environment) (protocol : ExportProtocol) (endpoint : String) :
    Except StartupFault Http.Uri :=
  if Endpoint.isValid endpoint then
    (Endpoint.address env protocol endpoint).mapError fun f => .exporter (.badAddress f)
  else .error (.badEndpoint endpoint)

/-- Headers of every export; a pair that is no header field is left out. -/
def fixedHeaders (fields : List (String × String)) : Http.Headers :=
  fields.foldl (fun h (name, value) => h.set name value) {}

/-- An exporter to a collector. Only exports over HTTP carry the headers. -/
def collector (env : Environment) (protocol : ExportProtocol) (endpoint : String) (timeout : Nat)
    (fields : List (String × String)) : Except StartupFault Exporter :=
  (address env protocol endpoint).map fun uri =>
    match protocol with
    | .grpc => .grpc uri timeout
    | .httpProtobuf => .http uri timeout (fixedHeaders fields) none

def authorized (env : Environment) (endpoint : String) (timeout : Nat)
    (fields : List (String × String)) (tokens : TokenSource) : Except StartupFault Exporter :=
  (address env .httpProtobuf endpoint).map fun uri =>
    .http uri timeout (fixedHeaders fields) (some tokens)

def protocol (name : String) : Except StartupFault ExportProtocol :=
  match ExportProtocol.read? name with
  | some p => .ok p
  | none => .error (.exporter (.unknownProtocol name))

end Exporter

end TracedService
