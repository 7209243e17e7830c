import TracedService.Http.Headers
import TracedService.Http.Uri

/-! Requests and responses as values. -/

namespace TracedService.Http

open Text.Utf8 (Bytes)

def isMethod (s : String) : Bool :=
  !s.isEmpty && s.toList.all isTokenChar

structure Request where
  method : String
  uri : Uri
  headers : Headers := {}
  body : Bytes := []
  deriving DecidableEq, Repr

/-- `allow` lists the methods that would have been served. -/
structure Response where
  status : Nat
  body : Bytes := []
  allow : Option String := none
  deriving DecidableEq, Repr

end TracedService.Http
