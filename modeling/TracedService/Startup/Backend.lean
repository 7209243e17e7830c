import TracedService.Settings.Basic
import TracedService.Text.Occurs

/-! The backend that spans are exported to. Keywords in the tool text choose it, letter case counts,
and the first of cloud, debug output and collector wins; the cloud needs a project. -/

namespace TracedService

inductive Backend where
  | cloud (project : String)
  | debugOutput
  | collector (endpoint : String)
  | disabled
  deriving DecidableEq, Repr

namespace Backend

def cloudKeyword : String := "GCP"
def debugKeyword : String := "STDOUT"
def collectorKeyword : String := "JAEGER"

def mentions (s : TracingSettings) (keyword : String) : Bool :=
  Text.occurs keyword.toList s.tool.toList

/-- The first backend whose keyword stands in the tool text; the cloud needs a project, too. -/
def resolve (s : TracingSettings) : Backend :=
  if mentions s cloudKeyword && !s.googleCloudProject.isEmpty then .cloud s.googleCloudProject
  else if mentions s debugKeyword then .debugOutput
  else if mentions s collectorKeyword then .collector s.jaegerEndpoint
  else .disabled

def name : Backend → String
  | cloud _ => "gcp"
  | debugOutput => "stdout"
  | collector _ => "jaeger"
  | disabled => "none"

end Backend

end TracedService
