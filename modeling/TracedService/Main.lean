import TracedService.CommandLine.Program

/-! The program. Requests come from standard input, one a line, each a method and a target; the end
of the input stops the server. From here no other server is reached. -/

namespace TracedService

def contentOf (path : String) : IO FileContent := do
  match ← (IO.FS.readBinFile path).toBaseIO with
  | .ok content => return .bytes content.toList
  | .error (.inappropriateType ..) => return .directory
  | .error _ => return .missing

def environmentOf (names : List String) : IO Environment := do
  return ⟨← names.filterMapM fun name => do
    return (← IO.getEnv name).map fun v => (name, Text.Utf8.encodeText v)⟩

def idsFrom (start : Nat) : IdSource where
  trace n := BitVec.ofNat 128 (start * Nat.pow 2 64 + n + 1)
  span n := BitVec.ofNat 64 (start + n + 1)

def callOf (arguments : List String) : IO CommandLine.Call := do
  let path := match CommandLine.Invocation.read arguments with
    | .ok (.run a) => a.path
    | _ => CommandLine.Arguments.defaultConfig
  let settings ← contentOf path
  let names := match settings.text with
    | .ok s => CommandLine.mentioned s.toList
    | .error _ => []
  let env ← environmentOf (names ++ CommandLine.watched).eraseDups
  let keyFile ← (← IO.getEnv TokenSource.keyFileVariable).mapM contentOf
  return {
    arguments := arguments
    files := fun _ => settings
    surroundings := { env := env, discovery := .ofKeyFile keyFile }
    network := .isolated
    ids := idsFrom (← IO.rand 1 (Nat.pow 2 60)) }

def finish (e : CommandLine.Ending) : IO UInt32 := do
  IO.print e.output
  for p in e.process.toList do
    for line in CommandLine.logLines p ++ CommandLine.spanLines p do
      IO.println line
  IO.eprint e.error
  return e.exit.toUInt32

/-- Answers requests until the input ends. -/
partial def serveInput (input : IO.FS.Stream) (r : CommandLine.Running) :
    IO CommandLine.Running := do
  let line ← input.getLine
  if line.isEmpty then return r
  let (answer, r) := r.answer line
  IO.println answer
  serveInput input r

end TracedService

open TracedService in
def main (arguments : List String) : IO UInt32 := do
  match CommandLine.start (← callOf arguments) with
  | .error e => finish e
  | .ok r =>
    match r.listen (.ok r.address.text) with
    | .error e => finish e
    | .ok r => finish (← serveInput (← IO.getStdin) r).stop
