import TracedService.Net.Exchange
import TracedService.Platform.Basic
import TracedService.Platform.Metadata
import TracedService.Resource
import TracedService.Startup.Notice
import TracedService.Text.Split

/-! Detection of the platform: attributes from the environment first, then from the metadata server
if it knows the project. -/

namespace TracedService

def Platform.keys : Platform → List MetadataKey
  | computeEngine => [.zone, .instanceId, .instanceName, .machineType]
  | kubernetesEngine => [.zone, .instanceId, .instanceName, .machineType, .clusterName]
  | cloudRun | cloudRunJob | cloudFunctions | appEngine => [.region, .instanceId]

/-- What detection found, the keys it asked for, and what it said. -/
structure Detection where
  result : Except DetectionError (List Attribute)
  asked : List MetadataKey
  notices : List Notice

namespace Detection

def lastSegment (value : String) : String :=
  String.ofList (Text.lastPiece '/' value.toList)

/-- A zone is a region, a dash and a suffix; both must be there. -/
def regionOfZone? (zone : String) : Option String :=
  (Text.cutLast? '-' zone.toList).bind fun (region, suffix) =>
    if region.isEmpty || suffix.isEmpty then none else some (String.ofList region)

def optional (key : String) (value : Option String) : List Attribute :=
  (value.map fun v => (key, v)).toList

def ofFound : MetadataKey × String → List Attribute
  | (.projectId, v) => [("cloud.account.id", v)]
  | (.zone, v) =>
    let zone := lastSegment v
    optional "cloud.region" (regionOfZone? zone) ++ [("cloud.availability_zone", zone)]
  | (.region, v) => [("cloud.region", lastSegment v)]
  | (.instanceId, v) => [("host.id", v)]
  | (.instanceName, v) => [("host.name", v)]
  | (.machineType, v) => [("host.type", lastSegment v)]
  | (.clusterName, v) => [("k8s.cluster.name", v)]

def ofFunction (d : Detector) : Platform → List Attribute
  | .cloudRun | .cloudFunctions =>
    optional "faas.name" (d.nonEmpty? "K_SERVICE" <|> d.nonEmpty? "FUNCTION_TARGET") ++
      optional "faas.version" (d.nonEmpty? "K_REVISION")
  | .cloudRunJob =>
    optional "faas.name" (d.nonEmpty? "CLOUD_RUN_JOB") ++
      optional "faas.instance" (d.nonEmpty? "CLOUD_RUN_EXECUTION")
  | .appEngine =>
    optional "faas.name" (d.nonEmpty? "GAE_SERVICE") ++
      optional "faas.version" (d.nonEmpty? "GAE_VERSION") ++
      optional "faas.instance" (d.nonEmpty? "GAE_INSTANCE")
  | .kubernetesEngine | .computeEngine => []

/-- The account is the metadata server's project, else the configured one. -/
def account? (found : Option String) (project : String) : Option String :=
  found <|> (if project.isEmpty then none else some project)

def furtherKeys (platform : Option Platform) (onCloud : Bool) : List MetadataKey :=
  match platform with
  | some p => if onCloud then p.keys else []
  | none => []

def unreachableNotices (d : Detector) (server : MetadataServer) (asked : List MetadataKey) :
    List Notice :=
  (asked.filter fun key => !(server key).arrives d.timeoutMillis).map fun key =>
    let url := d.base ++ "/" ++ key.path
    .metadataUnreachable url (unsentSummary url.toList)

/-- The detector for Google Cloud: attributes of the platform that the process runs on. -/
def detect (d : Detector) (project : String) (server : MetadataServer) : Detection :=
  match (server .projectId).value? .projectId d.timeoutMillis with
  | .error e => ⟨.error e, [.projectId], []⟩
  | .ok found =>
    let platform := d.platform? <|> (if found.isSome then some .computeEngine else none)
    let (asked, further) :=
      server.askAll d.timeoutMillis (furtherKeys platform found.isSome)
    let known := [("cloud.provider", "gcp")] ++
      optional "cloud.account.id" (account? found project) ++
      optional "cloud.platform" (platform.map Platform.label) ++
      (platform.map (ofFunction d)).getD []
    ⟨further.map fun values => known ++ values.flatMap ofFound, .projectId :: asked,
      unreachableNotices d server [.projectId] ++
        .platformDetected (platform.map Platform.name) found.isSome ::
          unreachableNotices d server asked⟩

def received (server : MetadataServer) (asked : List MetadataKey) : List MetadataKey :=
  asked.filter fun key => server key != .unreachable

/-- The resource of a cloud service: platform, software, identity; a later source wins. -/
def cloudResource (i : Identity) (detection : Detection) : Except DetectionError Resource :=
  detection.result.map fun attributes =>
    ((Resource.ofList attributes).merge Resource.telemetry).merge (Resource.ofList i.attributes)

end Detection

end TracedService
