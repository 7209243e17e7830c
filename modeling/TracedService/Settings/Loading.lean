import TracedService.FileContent
import TracedService.Settings.Expansion
import TracedService.Settings.Reader
import TracedService.Settings.Validation

/-! Loading: the file's text, its variables replaced, read as YAML and checked. -/

namespace TracedService.Settings

def ofText (env : Environment) (content : String) : Except SettingsFault Settings := do
  let s ← (Reader.read (expand env content.toList)).mapError .form
  s.validate
  return s

def load (env : Environment) (file : FileContent) : Except SettingsFault Settings := do
  ofText env (← file.text.mapError .file)

end TracedService.Settings
