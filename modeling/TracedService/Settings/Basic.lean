import TracedService.Environment
import TracedService.Identity

/-! The settings of a traced service, and what stands where nothing is set. -/

namespace TracedService

/-- Times are in seconds. The five texts without a default decide where spans go and how many. -/
structure TracingSettings where
  tool : String := ""
  otlpEndpoint : String := ""
  googleCloudProject : String := ""
  jaegerEndpoint : String := ""
  samplingRate : String := ""
  collectorProtocol : String := "grpc"
  exportTimeout : Nat := 10
  startupTimeout : Nat := 10
  deriving DecidableEq, Repr, Inhabited

structure LoggingSettings where
  level : String := "info"
  format : String := "json"
  deriving DecidableEq, Repr, Inhabited

structure Settings where
  serverAddress : String
  identity : Identity
  logging : LoggingSettings := {}
  tracing : Option TracingSettings := none
  deriving DecidableEq, Repr

namespace TracingSettings

def watched : List String :=
  ["TRACING_TOOL", "OTLP_ENDPOINT", "GOOGLE_CLOUD_PROJECT", "JAEGER_ENDPOINT",
    "TRACER_SAMPLING_RATE"]

def ofEnvironment (env : Environment) : TracingSettings where
  tool := env.textOrEmpty "TRACING_TOOL"
  otlpEndpoint := env.textOrEmpty "OTLP_ENDPOINT"
  googleCloudProject := env.textOrEmpty "GOOGLE_CLOUD_PROJECT"
  jaegerEndpoint := env.textOrEmpty "JAEGER_ENDPOINT"
  samplingRate := env.textOrEmpty "TRACER_SAMPLING_RATE"

end TracingSettings

namespace Settings

def tracingOr (s : Settings) (env : Environment) : TracingSettings :=
  s.tracing.getD (.ofEnvironment env)

end Settings

end TracedService
