import TracedService.Environment
import TracedService.Http.Uri

/-! Where spans are sent: the wire protocol, the check on the configured endpoint, and the address
that results once the environment has had its say. -/

namespace TracedService

inductive ExportProtocol where
  | grpc
  | httpProtobuf
  deriving DecidableEq, Repr

namespace ExportProtocol

def name : ExportProtocol → String
  | grpc => "grpc"
  | httpProtobuf => "http/protobuf"

def read? (s : String) : Option ExportProtocol :=
  [grpc, httpProtobuf].find? fun p => p.name == s

end ExportProtocol

namespace Endpoint

def schemes : List String :=
  ["http://", "https://"]

/-- An endpoint names one of the two schemes in small letters. -/
def isValid (endpoint : String) : Bool :=
  schemes.any fun s => Text.startsWith s.toList endpoint.toList

def tracePath : String := "/v1/traces"

/-- The variable that names the address of trace exports, taken as it stands. -/
def traceVariable : String := "OTEL_EXPORTER_OTLP_TRACES_ENDPOINT"

/-- The variable that names the address of all exports, below which traces have their path. -/
def generalVariable : String := "OTEL_EXPORTER_OTLP_ENDPOINT"

def below (endpoint : String) : String :=
  endpoint ++ tracePath

def readUri (s : String) : Except Http.UriFault Http.Uri :=
  Http.Uri.read false s.toList

/-- The address of exports over HTTP. A variable that holds no address is passed over. -/
def httpAddress (env : Environment) (endpoint : String) : Except Http.UriFault Http.Uri :=
  match (env.text? traceVariable).bind fun s => (readUri s).toOption with
  | some uri => .ok uri
  | none =>
    match (env.text? generalVariable).bind fun s => (readUri (below s)).toOption with
    | some uri => .ok uri
    | none => readUri (below endpoint)

/-- The address of exports over gRPC. A variable that is set has to hold an address. -/
def grpcAddress (env : Environment) (endpoint : String) : Except Http.UriFault Http.Uri :=
  match env.text? traceVariable <|> env.text? generalVariable with
  | some s => readUri s
  | none => readUri (below endpoint)

/-- The address that an exporter built for the endpoint sends to. -/
def address (env : Environment) (protocol : ExportProtocol) (endpoint : String) :
    Except Http.UriFault Http.Uri :=
  match protocol with
  | .grpc => grpcAddress env endpoint
  | .httpProtobuf => httpAddress env endpoint

end Endpoint

end TracedService
