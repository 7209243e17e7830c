import TracedService.Startup.Build

/-! The guard of an activated provider. While it is active its end flushes the provider and then
shuts the process-wide provider down. -/

namespace TracedService

/-- The provider is there exactly while the guard is active. -/
structure Guard where
  provider : Option Provider
  active : Bool

inductive ClosingStep where
  | flush
  | shutDown
  deriving DecidableEq, Repr

namespace Guard

def inactive : Guard :=
  ⟨none, false⟩

def ofProvider (p : Provider) : Guard :=
  ⟨some p, true⟩

def dropped (g : Guard) : List ClosingStep :=
  if g.active then (if g.provider.isSome then [.flush] else []) ++ [.shutDown] else []

/-- The first failure among the results that the span processors give for a flush. -/
def firstFailure? (results : List (Except String Unit)) : Option String :=
  results.findSome? fun r =>
    match r with
    | .ok _ => none
    | .error m => some m

/-- An explicit shutdown, with what each span processor answers to the flush. On a failure the guard
stays active and goes away by itself; otherwise nothing is left to do for it. -/
def shutdown (g : Guard) (results : List (Except String Unit)) :
    Except StartupFault Unit × List ClosingStep :=
  if g.active then
    if g.provider.isSome then
      match firstFailure? results with
      | some m => (.error (.exporter (.undelivered m)), .flush :: g.dropped)
      | none => (.ok (), [.flush, .shutDown] ++ dropped { g with active := false })
    else (.ok (), .shutDown :: dropped { g with active := false })
  else (.ok (), g.dropped)

end Guard

end TracedService
