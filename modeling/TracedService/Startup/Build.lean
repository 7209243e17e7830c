import TracedService.Export.Exporter
import TracedService.Platform.Detection
import TracedService.Sampling.Policy
import TracedService.Startup.Backend

/-! Building a trace provider from settings. Nothing is activated here. The checks have a fixed
order, the first that fails is the one that is told, and each failure is logged once. -/

namespace TracedService

structure Surroundings where
  env : Environment := {}
  metadata : MetadataServer := fun _ => .unreachable
  /-- What a search for default credentials comes to here. -/
  discovery : Discovery := { result := .error .nowhere }

/-- A tracer provider: its sampler, its resource and its exporter. -/
structure Provider where
  policy : SamplingPolicy
  resource : Resource
  exporter : Exporter

structure Build where
  result : Except StartupFault (Option Provider)
  notices : List Notice := []
  /-- The search for credentials, if one took place. -/
  search : Option Discovery := none
  /-- The metadata keys that detection asked for. -/
  asked : List MetadataKey := []

/-- The request for a tracer provider. -/
structure Bootstrap where
  identity : Identity
  settings : TracingSettings
  detector : Detector
  /-- Access tokens from the caller; without them default credentials are searched for. -/
  tokens : Option TokenSource := none

namespace Bootstrap

def cloudEndpoint : String := "https://telemetry.googleapis.com"

def projectHeader : String := "x-goog-user-project"

def endpoint (b : Bootstrap) : String :=
  if b.settings.otlpEndpoint.isEmpty then cloudEndpoint else b.settings.otlpEndpoint

def search? (b : Bootstrap) (s : Surroundings) : Option Discovery :=
  if b.tokens.isSome then none else some s.discovery

def tokenSource (b : Bootstrap) (s : Surroundings) : Except StartupFault TokenSource :=
  match b.tokens with
  | some t => .ok t
  | none => s.discovery.result.mapError fun f => .exporter (.noCredentials f)

/-- Credentials, then the exporter, and only then the platform. -/
def buildCloud (b : Bootstrap) (s : Surroundings) (policy : SamplingPolicy) (project : String) :
    Build :=
  let name := (Backend.cloud project).name
  let search := b.search? s
  match b.tokenSource s with
  | .error f => { result := .error f, notices := [.credentialsMissing name f.message], search }
  | .ok tokens =>
    match Exporter.authorized s.env b.endpoint b.settings.exportTimeout [(projectHeader, project)]
        tokens with
    | .error f => { result := .error f, notices := [.cloudExporterFailed name f.message], search }
    | .ok exporter =>
      let detection := Detection.detect b.detector project s.metadata
      match Detection.cloudResource b.identity detection with
      | .error f =>
        { result := .error (.resource f)
          notices := detection.notices ++ [.cloudResourceFailed f.message]
          search
          asked := detection.asked }
      | .ok resource =>
        { result := .ok (some ⟨policy, resource, exporter⟩)
          notices := detection.notices ++ [.cloudProviderCreated project b.endpoint]
          search
          asked := detection.asked }

def buildDebugOutput (b : Bootstrap) (policy : SamplingPolicy) : Build where
  result := .ok (some ⟨policy, .ofIdentity b.identity, .debugOutput⟩)
  notices := [.debugProviderCreated b.settings.tool]

def buildCollector (b : Bootstrap) (s : Surroundings) (policy : SamplingPolicy)
    (endpoint : String) : Build :=
  let exporter := do
    let protocol ← Exporter.protocol b.settings.collectorProtocol
    Exporter.collector s.env protocol endpoint b.settings.exportTimeout []
  match exporter with
  | .error f =>
    { result := .error f
      notices := [.collectorExporterFailed (Backend.collector endpoint).name f.message] }
  | .ok exporter =>
    { result := .ok (some ⟨policy, .ofIdentity b.identity, exporter⟩)
      notices := [.collectorProviderCreated endpoint b.settings.collectorProtocol] }

def buildBackend (b : Bootstrap) (s : Surroundings) (policy : SamplingPolicy) : Backend → Build
  | .cloud project => b.buildCloud s policy project
  | .debugOutput => b.buildDebugOutput policy
  | .collector endpoint => b.buildCollector s policy endpoint
  | .disabled => { result := .ok none, notices := [.backendUnmatched b.settings.tool] }

def backend (b : Bootstrap) : Backend :=
  Backend.resolve b.settings

def opening (b : Bootstrap) : List Notice :=
  (SamplingPolicy.read b.settings.samplingRate).2 ++
    [.backendResolved b.settings.tool b.backend.name]

/-- A blank tool is refused before anything else is looked at. -/
def build (b : Bootstrap) (s : Surroundings) : Build :=
  if Text.isBlankText b.settings.tool then
    { result := .error .toolMissing, notices := [.toolBlank] }
  else
    let built := b.buildBackend s (SamplingPolicy.read b.settings.samplingRate).1 b.backend
    { built with notices := b.opening ++ built.notices }

def millis (b : Bootstrap) (s : Surroundings) : Nat :=
  (b.build s).search.elim 0 (·.millis) +
    (b.build s).asked.foldr (fun key n => (s.metadata key).millis b.detector.timeoutMillis + n) 0

/-- A build that waits for nobody is never too late. -/
def isInTime (b : Bootstrap) (s : Surroundings) (limitMillis : Nat) : Bool :=
  ((b.build s).search.all (·.millis = 0) &&
    (Detection.received s.metadata (b.build s).asked).isEmpty) || b.millis s < limitMillis

end Bootstrap

end TracedService
