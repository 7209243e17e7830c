import TracedService.Text.Utf8

/-! The environment of a process: variables with bytes as values. A value that is not UTF-8 cannot
be read as text and counts as unset. -/

namespace TracedService

structure Environment where
  entries : List (String × Text.Utf8.Bytes) := []
  deriving Inhabited

namespace Environment

def bytes? (env : Environment) (name : String) : Option Text.Utf8.Bytes :=
  (env.entries.find? (·.1 == name)).map (·.2)

def text? (env : Environment) (name : String) : Option String :=
  (env.bytes? name).bind Text.Utf8.decodeText?

def textOrEmpty (env : Environment) (name : String) : String :=
  (env.text? name).getD ""

end Environment

end TracedService
