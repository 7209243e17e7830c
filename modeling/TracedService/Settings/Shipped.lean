/-! The settings file that comes with the service. -/

namespace TracedService.Settings

def shippedLines : List String :=
  [
    "# Tracer Bootstrap configuration",
    "server:",
    "  address: \"$\x7bSERVER_ADDRESS:-0.0.0.0:8080\x7d\"",
    "",
    "service:",
    "  name: \"$\x7bSERVICE_NAME:-orders-api\x7d\"",
    "  environment: \"$\x7bENVIRONMENT:-development\x7d\"",
    "  module: \"$\x7bMODULE:-orders\x7d\"",
    "",
    "logging:",
    "  level: \"info\"",
    "  format: \"json\"",
    "",
    "# Remove this section to read TRACING_TOOL, OTLP_ENDPOINT, GOOGLE_CLOUD_PROJECT,",
    "# JAEGER_ENDPOINT and TRACER_SAMPLING_RATE from the environment instead.",
    "tracing:",
    "  tool: \"$\x7bTRACING_TOOL:-STDOUT\x7d\"",
    "  otlp_endpoint: \"$\x7bOTLP_ENDPOINT:-\x7d\"",
    "  google_cloud_project: \"$\x7bGOOGLE_CLOUD_PROJECT:-\x7d\"",
    "  jaeger_endpoint: \"$\x7bJAEGER_ENDPOINT:-http://localhost:4317\x7d\"",
    "  sampling_rate: \"$\x7bTRACER_SAMPLING_RATE:-1.0\x7d\"",
    "  collector_protocol: \"grpc\""]

def shipped : String :=
  String.join (shippedLines.map (· ++ "\n"))

end TracedService.Settings
