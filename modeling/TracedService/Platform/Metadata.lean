import TracedService.Text.Blank

/-! The metadata server of the cloud provider: what can be asked, what comes back, and how an answer
is understood. A key that cannot be reached, is not there or is blank has no value; every other
status and a body that breaks off are failures. -/

namespace TracedService

inductive MetadataKey where
  | projectId
  | zone
  | region
  | instanceId
  | instanceName
  | machineType
  | clusterName
  deriving DecidableEq, Repr

namespace MetadataKey

def path : MetadataKey → String
  | projectId => "project/project-id"
  | zone => "instance/zone"
  | region => "instance/region"
  | instanceId => "instance/id"
  | instanceName => "instance/name"
  | machineType => "instance/machine-type"
  | clusterName => "instance/attributes/cluster-name"

end MetadataKey

/-- What a request meets with. The body is missing if it breaks off. -/
inductive MetadataAnswer where
  | unreachable
  | answered (delayMillis status : Nat) (body : Option String)
  deriving DecidableEq, Repr

abbrev MetadataServer := MetadataKey → MetadataAnswer

inductive DetectionError where
  | badStatus (key : MetadataKey) (status : Nat)
  | unreadable (key : MetadataKey)
  deriving DecidableEq, Repr

namespace DetectionError

def key : DetectionError → MetadataKey
  | badStatus key _ => key
  | unreadable key => key

/-- The reason that a body cannot be read is told by the connection and not repeated here. -/
def message : DetectionError → String
  | badStatus key status =>
    "Metadata server returned status " ++ toString status ++ " for " ++ key.path
  | unreadable key => "Failed to read metadata " ++ key.path

end DetectionError

namespace MetadataAnswer

/-- Whether an answer arrives before the timeout. -/
def arrives (timeoutMillis : Nat) : MetadataAnswer → Bool
  | unreachable => false
  | answered delay _ _ => delay < timeoutMillis

def millis (timeoutMillis : Nat) : MetadataAnswer → Nat
  | unreachable => 0
  | answered delay _ _ => min delay timeoutMillis

def value? (key : MetadataKey) (timeoutMillis : Nat) :
    MetadataAnswer → Except DetectionError (Option String)
  | unreachable => .ok none
  | answered delay status body =>
    if timeoutMillis ≤ delay || status = 404 then .ok none
    else if 200 ≤ status && status < 300 then
      match body with
      | none => .error (.unreadable key)
      | some text => .ok (if Text.isBlankText text then none else some (Text.trimmed text))
    else .error (.badStatus key status)

end MetadataAnswer

/-- The values of keys asked in turn, and the keys asked: the first failure ends the questions. -/
def MetadataServer.askAll (server : MetadataServer) (timeoutMillis : Nat) :
    List MetadataKey → List MetadataKey × Except DetectionError (List (MetadataKey × String))
  | [] => ([], .ok [])
  | key :: keys =>
    match (server key).value? key timeoutMillis with
    | .error e => ([key], .error e)
    | .ok value =>
      let (asked, rest) := askAll server timeoutMillis keys
      (key :: asked, rest.map fun found => (value.map fun v => (key, v)).toList ++ found)

end TracedService
