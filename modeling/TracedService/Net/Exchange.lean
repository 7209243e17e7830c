import TracedService.Http.Message
import TracedService.Net.Url

/-! Talking to a server: which addresses can be called, and what comes of a call. -/

namespace TracedService

open Text.Utf8 (Bytes)

inductive Exchange where
  | unreachable (reason : String)
  | closed
  /-- The body may break off before its end. -/
  | answered (status : Nat) (body : Bytes) (complete : Bool)
  deriving DecidableEq, Repr

inductive AddressFault where
  | unreadable (f : UrlFault)
  | badScheme (url : String)
  deriving DecidableEq, Repr

namespace AddressFault

def summary : AddressFault → String
  | unreadable _ => "builder error"
  | badScheme url => "builder error for url (" ++ url ++ ")"

def cause : AddressFault → String
  | unreadable f => f.message
  | badScheme _ => "URL scheme is not allowed"

end AddressFault

namespace Url

def ofText (s : List Char) : Except AddressFault Url :=
  (read s).mapError .unreadable

def ofHost (s : List Char) : Except AddressFault Url := do
  let u ← ofText s
  if u.hasHost then return u else throw (.badScheme u.text)

def overHttp (u : Url) : Except AddressFault Url :=
  if u.isHttp then .ok u else .error (.badScheme u.text)

end Url

/-- What is said of a request to a server that cannot be reached, and of one that cannot be made. -/
def unsentSummary (address : List Char) : String :=
  match (Url.ofHost address).bind fun u => u.withoutUser.overHttp with
  | .ok u => "error sending request for url (" ++ u.text ++ ")"
  | .error f => f.summary

end TracedService
