import TracedService.Log.Event

/-! What the service says in its log while it starts, runs and stops: one constructor for each
cause, and the event that reports it. -/

namespace TracedService

/-- What the program says in its log. -/
inductive Notice where
  | rateNotANumber (rate : String)
  | rateUnreadable (rate : String)
  | ratioChosen (ratio : Binary64)
  | toolBlank
  | backendResolved (tool backend : String)
  | credentialsMissing (backend error : String)
  | cloudExporterFailed (backend error : String)
  | cloudResourceFailed (error : String)
  | cloudProviderCreated (project endpoint : String)
  | debugProviderCreated (tool : String)
  | collectorExporterFailed (backend error : String)
  | collectorProviderCreated (endpoint protocol : String)
  | backendUnmatched (tool : String)
  | metadataUnreachable (url error : String)
  | platformDetected (platform : Option String) (onCloud : Bool)
  | bootstrapTimedOut (seconds : String)
  | providerInstalled
  | selfTestEmitted (span : String)
  | selfTestFailed (error : String)
  | starting (version : String)
  | settingsLoaded (path : String)
  | serverStarting (address service : String)
  | serverStopping
  | serverStopped
  deriving DecidableEq, Repr

namespace Notice

open Log (Level Event Value)

def level : Notice → Level
  | rateNotANumber _ | rateUnreadable _ => .warn
  | toolBlank | credentialsMissing .. | cloudExporterFailed .. | cloudResourceFailed _
  | collectorExporterFailed .. | bootstrapTimedOut _ | selfTestFailed _ => .error
  | metadataUnreachable .. | platformDetected .. => .debug
  | _ => .info

def target : Notice → String
  | rateNotANumber _ | rateUnreadable _ | ratioChosen _ => "tracer_bootstrap::tracing::sampling"
  | toolBlank | backendResolved .. | bootstrapTimedOut _ | selfTestEmitted _ | selfTestFailed _ =>
    "tracer_bootstrap::tracing::init"
  | credentialsMissing .. | cloudExporterFailed .. | cloudResourceFailed _
  | cloudProviderCreated .. | debugProviderCreated _ | collectorExporterFailed ..
  | collectorProviderCreated .. | backendUnmatched _ => "tracer_bootstrap::tracing::backend"
  | metadataUnreachable .. | platformDetected .. => "tracer_bootstrap::tracing::gcp"
  | providerInstalled => "tracer_bootstrap::tracing::global"
  | starting _ | settingsLoaded _ => "tracer_bootstrap"
  | serverStarting .. | serverStopping | serverStopped => "tracer_bootstrap::server"

def message : Notice → String
  | rateNotANumber _ => "Invalid tracer sampling rate (NaN), using AlwaysOn sampler"
  | rateUnreadable _ => "Invalid tracer sampling rate, using AlwaysOn sampler"
  | ratioChosen _ => "Using parent-based TraceIdRatioBased sampler"
  | toolBlank => "Tracing tool is empty, skipping tracer initialization"
  | backendResolved .. => "Resolved tracing backend"
  | credentialsMissing .. => "Failed to load GCP credentials"
  | cloudExporterFailed .. => "Failed to create GCP exporter"
  | cloudResourceFailed _ => "Failed to create GCP tracer resource"
  | cloudProviderCreated .. => "GCP tracer provider created"
  | debugProviderCreated _ => "Stdout tracer provider created"
  | collectorExporterFailed .. => "Failed to create collector exporter"
  | collectorProviderCreated .. => "Collector tracer provider created"
  | backendUnmatched _ => "No tracing backend matched, tracing disabled"
  | metadataUnreachable .. => "Metadata server unreachable"
  | platformDetected .. => "Detected GCP platform"
  | bootstrapTimedOut _ => "Tracer bootstrap timed out"
  | providerInstalled => "Global tracer provider and propagator installed"
  | selfTestEmitted _ => "Tracer self-test span emitted"
  | selfTestFailed _ => "Tracer self-test failed, continuing"
  | starting version => "Starting Tracer Bootstrap v" ++ version
  | settingsLoaded path => "Loaded configuration from " ++ path
  | serverStarting .. => "HTTP server starting"
  | serverStopping => "Shutting down server"
  | serverStopped => "HTTP server stopped"

def fields : Notice → List (String × Value)
  | rateNotANumber rate | rateUnreadable rate => [("rate", .quoted rate)]
  | ratioChosen ratio => [("ratio", .number ratio)]
  | backendResolved tool backend => [("tool", .text tool), ("backend", .text backend)]
  | credentialsMissing backend error | cloudExporterFailed backend error
  | collectorExporterFailed backend error => [("backend", .text backend), ("error", .text error)]
  | cloudResourceFailed error | selfTestFailed error => [("error", .text error)]
  | cloudProviderCreated project endpoint =>
    [("project_id", .text project), ("endpoint", .quoted endpoint)]
  | debugProviderCreated tool | backendUnmatched tool => [("tool", .text tool)]
  | collectorProviderCreated endpoint protocol =>
    [("endpoint", .text endpoint), ("protocol", .text protocol)]
  | metadataUnreachable url error => [("url", .text url), ("error", .text error)]
  | platformDetected platform onCloud =>
    [("platform", .text (match platform with
      | some p => "Some(" ++ p ++ ")"
      | none => "None")),
     ("on_gcp", .flag onCloud)]
  | bootstrapTimedOut seconds => [("timeout", .text seconds)]
  | selfTestEmitted span => [("span", .quoted span)]
  | serverStarting address service => [("address", .text address), ("service", .text service)]
  | toolBlank | providerInstalled | starting _ | settingsLoaded _ | serverStopping
  | serverStopped => []

def event (n : Notice) : Event :=
  ⟨n.level, n.target, n.message, n.fields⟩

end Notice

end TracedService
