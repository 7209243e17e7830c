import TracedService.Net.SocketAddress
import TracedService.Settings.Basic
import TracedService.Settings.Fault
import TracedService.Text.Blank
import TracedService.Text.Lowercase

/-! Which settings a service can be started with. The tracing section is not looked at: what is
wrong there is told when tracing starts. -/

namespace TracedService.Settings

def level? (name : String) : Option Log.Level :=
  Log.Level.all.find? fun l => l.name == Text.lowercase name

def fault? (s : Settings) : Option RuleFault :=
  if (SocketAddress.read? s.serverAddress).isNone then some (.badAddress s.serverAddress)
  else if Text.isBlankText s.identity.name then some .blankName
  else if (level? s.logging.level).isNone then some (.badLevel s.logging.level)
  else if !RuleFault.formats.contains s.logging.format then some (.badFormat s.logging.format)
  else none

def validate (s : Settings) : Except SettingsFault Unit :=
  match s.fault? with
  | some f => .error (.rule f)
  | none => .ok ()

def withLevel (s : Settings) (level : String) : Settings :=
  { s with logging.level := level }

def address? (s : Settings) : Option SocketAddress :=
  SocketAddress.read? s.serverAddress

def bindMessage : String :=
  "Failed to bind to address: invalid socket address syntax"

/-- The address of the server that is made from settings. It is read once more, with nothing known
about the settings. -/
def listenAddress (s : Settings) : Except String SocketAddress :=
  match s.address? with
  | some a => .ok a
  | none => .error bindMessage

end TracedService.Settings
