import TracedService.Credentials.TokenSource
import TracedService.Http.Uri
import TracedService.Platform.Metadata

/-! Why tracing could not be started, installed or brought to its end. -/

namespace TracedService

inductive ExporterFault where
  | unknownProtocol (name : String)
  | badAddress (f : Http.UriFault)
  | noCredentials (f : CredentialsFault)
  | undelivered (reason : String)
  deriving DecidableEq, Repr

inductive StartupFault where
  | toolMissing
  | badEndpoint (endpoint : String)
  | exporter (f : ExporterFault)
  | resource (f : DetectionError)
  | alreadyActive
  | timedOut (seconds : Nat)
  | selfTest (reason : String)
  | logSetup (reason : String)
  deriving DecidableEq, Repr

namespace ExporterFault

def message : ExporterFault → String
  | unknownProtocol name =>
    "Invalid OTLP protocol '" ++ name ++ "': must be 'grpc' or 'http/protobuf'"
  | badAddress f =>
    "Exporter otlp encountered the following error(s): invalid URI " ++ f.message
  | noCredentials f => "No Google Cloud credentials found: " ++ f.message
  | undelivered reason => reason

end ExporterFault

namespace StartupFault

/-- A time in seconds; no time at all is written in the smallest unit. -/
def secondsText (n : Nat) : String :=
  if n = 0 then "0ns" else toString n ++ "s"

def message : StartupFault → String
  | toolMissing => "Tracing tool not configured"
  | badEndpoint endpoint =>
    "Invalid OTLP endpoint: Endpoint must start with http:// or https://, got: '" ++ endpoint ++ "'"
  | exporter f => "Failed to initialize span exporter: " ++ f.message
  | resource f => "Failed to build tracer resource: " ++ f.message
  | alreadyActive => "A tracer provider is already active in this process"
  | timedOut seconds => "Tracer bootstrap timed out after " ++ secondsText seconds
  | selfTest reason => "Tracer self-test failed: " ++ reason
  | logSetup reason => "Failed to initialize log subscriber: " ++ reason

end StartupFault

end TracedService
