import TracedService.Environment
import TracedService.Text.Blank

/-! Runtimes of the cloud provider, and the detector that recognises them by environment variables.
Presence of a variable decides, not its value. -/

namespace TracedService

inductive Platform where
  | cloudRun
  | cloudRunJob
  | cloudFunctions
  | appEngine
  | kubernetesEngine
  | computeEngine
  deriving DecidableEq, Repr

namespace Platform

def label : Platform → String
  | cloudRun | cloudRunJob => "gcp_cloud_run"
  | cloudFunctions => "gcp_cloud_functions"
  | appEngine => "gcp_app_engine"
  | kubernetesEngine => "gcp_kubernetes_engine"
  | computeEngine => "gcp_compute_engine"

def name : Platform → String
  | cloudRun => "CloudRun"
  | cloudRunJob => "CloudRunJob"
  | cloudFunctions => "CloudFunctions"
  | appEngine => "AppEngine"
  | kubernetesEngine => "KubernetesEngine"
  | computeEngine => "ComputeEngine"

/-- The variable that gives a platform away, the strongest evidence first. A virtual machine has
none. -/
def evidence : List (String × Platform) :=
  [("FUNCTION_TARGET", cloudFunctions), ("CLOUD_RUN_JOB", cloudRunJob), ("K_SERVICE", cloudRun),
    ("GAE_SERVICE", appEngine), ("KUBERNETES_SERVICE_HOST", kubernetesEngine)]

end Platform

structure Detector where
  base : String
  captured : List (String × String)
  timeoutMillis : Nat
  deriving DecidableEq, Repr

namespace Detector

def watched : List String :=
  ["K_SERVICE", "K_REVISION", "CLOUD_RUN_JOB", "CLOUD_RUN_EXECUTION", "FUNCTION_TARGET",
    "GAE_SERVICE", "GAE_VERSION", "GAE_INSTANCE", "KUBERNETES_SERVICE_HOST"]

def baseOfHost (host : String) : String :=
  "http://" ++ host ++ "/computeMetadata/v1"

def defaultHost : String := "metadata.google.internal"

def hostVariable : String := "GCE_METADATA_HOST"

/-- The base address that the environment asks for; a blank host asks for nothing. -/
def baseOf (env : Environment) : String :=
  match env.text? hostVariable with
  | some host =>
    if Text.isBlankText host then baseOfHost defaultHost else baseOfHost (Text.trimmed host)
  | none => baseOfHost defaultHost

def ofEnvironment (env : Environment) : Detector where
  base := baseOf env
  captured := watched.filterMap fun name => (env.text? name).map fun v => (name, v)
  timeoutMillis := 2000

inductive Step where
  | setVariable (name value : String)
  | forgetVariables
  | setBase (base : String)
  | setTimeout (millis : Nat)
  deriving DecidableEq, Repr

def trimBase (base : String) : String :=
  String.ofList (base.toList.reverse.dropWhile (· == '/')).reverse

def apply (d : Detector) : Step → Detector
  | .setVariable name value =>
    { d with captured := (name, value) :: d.captured.filter (·.1 != name) }
  | .forgetVariables => { d with captured := [] }
  | .setBase base => { d with base := trimBase base }
  | .setTimeout millis => { d with timeoutMillis := millis }

def run (d : Detector) (steps : List Step) : Detector :=
  steps.foldl apply d

def has (d : Detector) (name : String) : Bool :=
  d.captured.any (·.1 == name)

def nonEmpty? (d : Detector) (name : String) : Option String :=
  ((d.captured.find? (·.1 == name)).map (·.2)).filter (!·.isEmpty)

def platform? (d : Detector) : Option Platform :=
  (Platform.evidence.find? fun e => d.has e.1).map (·.2)

end Detector

end TracedService
