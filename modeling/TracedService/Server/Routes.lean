import TracedService.Json.Text
import TracedService.Server.Router
import TracedService.Settings.Basic

/-! The service's own routes: a health check, and a document that tells what the service is. -/

namespace TracedService.Server

def version : String := "0.1.0"

def healthz : Handler :=
  .constant ⟨200, Text.Utf8.encodeText "ok", none⟩

def serviceInfo (i : Identity) : Handler :=
  .constant ⟨200, Text.Utf8.encodeText (Json.objectText [("environment", i.environment),
    ("module", i.module), ("service", i.name), ("version", version)]), none⟩

def routes (i : Identity) : Router where
  routes := [⟨"/healthz", "/healthz".toList.map .literal, .one "GET" healthz⟩,
    ⟨"/", [.literal '/'], .one "GET" (serviceInfo i)⟩]

end TracedService.Server
