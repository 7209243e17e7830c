import TracedService.Text.Utf8

/-! What stands at a path, and why it cannot be read as text. -/

namespace TracedService

inductive FileContent where
  | missing
  | directory
  | bytes (bs : Text.Utf8.Bytes)
  deriving DecidableEq, Repr

inductive FileFault where
  | missing
  | directory
  | notText
  deriving DecidableEq, Repr

namespace FileFault

def message : FileFault → String
  | missing => "No such file or directory (os error 2)"
  | directory => "Is a directory (os error 21)"
  | notText => "stream did not contain valid UTF-8"

end FileFault

namespace FileContent

def ofText (s : String) : FileContent :=
  .bytes (Text.Utf8.encodeText s)

def text : FileContent → Except FileFault String
  | missing => .error .missing
  | directory => .error .directory
  | bytes bs =>
    match Text.Utf8.decodeText? bs with
    | some s => .ok s
    | none => .error .notText

end FileContent

end TracedService
