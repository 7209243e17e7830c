import TracedService.Credentials.TokenSource
import TracedService.Http.Status
import TracedService.Net.Exchange
import TracedService.Text.Base64

/-! Requests to a collector. One that has to carry an access token asks for it before anything is
sent; without a token, or with one that cannot stand in a header, nothing is sent. -/

namespace TracedService

open Text.Utf8 (Bytes)

inductive SendFault where
  | token (f : TokenFault)
  | header
  | address (f : AddressFault)
  | unsent (url reason : String)
  | status (code : Nat) (url : String)
  | brokenBody (url : String)
  deriving DecidableEq, Repr

namespace SendFault

def summary : SendFault → String
  | token f => f.message
  | header => "builder error"
  | address f => f.summary
  | unsent url _ => "error sending request for url (" ++ url ++ ")"
  | status code url =>
    "HTTP status " ++ (if code < 500 then "client" else "server") ++ " error (" ++
      Http.Status.line code ++ ") for url (" ++ url ++ ")"
  | brokenBody url => "error decoding response body for url (" ++ url ++ ")"

def cause? : SendFault → Option String
  | address f => some f.cause
  | unsent _ reason => some reason
  | _ => none

/-- The caller is stopped, and not only told. -/
def stops (f : SendFault) : Bool :=
  f = .token .noAddress

def detail (f : SendFault) : String :=
  f.summary ++ match f.cause? with
    | some cause => ": " ++ cause
    | none => ""

end SendFault

/-- A request on its way: the address it goes to, and its headers with the token among them. What
the HTTP client adds on its own account (`accept`, `host`) is left out. -/
structure Outgoing where
  method : String
  address : Url
  headers : Http.Headers
  body : Bytes
  deriving DecidableEq, Repr

namespace Outgoing

def authorization : String := "authorization"

def bearer (token : String) : Bytes :=
  Text.Utf8.encodeText ("Bearer " ++ token)

def ofRequest (address : Url) (front : List (String × Bytes)) (r : Http.Request) : Outgoing :=
  ⟨r.method, address, ⟨front ++ r.headers.fields⟩, r.body⟩

/-- The request as it is. It goes out without encryption or not at all. -/
def plain (r : Http.Request) : Except SendFault Outgoing := do
  let address ← ((Url.ofText r.uri.text).bind Url.overHttp).mapError .address
  if address.isSecure then
    throw (.unsent address.text "error trying to connect: invalid URL, scheme is not http")
  return ofRequest address [] r

def basic (u : Url) : List (String × Bytes) :=
  (u.user?.map fun (name, secret) =>
    (authorization, Text.Utf8.encodeText "Basic " ++
      Text.Base64.encode (Text.Utf8.encode (name ++ ':' :: secret.getD [])))).toList

/-- The request with the token in front of its own headers. A user in the address becomes a header,
too. -/
def authorized (token : String) (r : Http.Request) : Except SendFault Outgoing := do
  let address ← (Url.ofHost r.uri.text).mapError .address
  let value := bearer token
  if Http.HeaderValue.isValid value then
    let target ← address.withoutUser.overHttp.mapError .address
    return ofRequest target (basic address ++ [(authorization, value)]) r
  else throw .header

end Outgoing

structure Call where
  result : Except SendFault Http.Response
  sent : Option Outgoing

def Call.answered (out : Outgoing) (status : Nat) (body : Bytes) (complete : Bool) : Call :=
  if 400 ≤ status && status < 600 then ⟨.error (.status status out.address.text), some out⟩
  else if complete then ⟨.ok ⟨status, body, none⟩, some out⟩
  else ⟨.error (.brokenBody out.address.text), some out⟩

/-- The call that a made up request leads to. Redirects are not followed: the answer to the first
request is the one that counts. -/
def Outgoing.call (server : Outgoing → Exchange) : Except SendFault Outgoing → Call
  | .error f => ⟨.error f, none⟩
  | .ok out =>
    match server out with
    | .unreachable reason => ⟨.error (.unsent out.address.text reason), none⟩
    | .closed =>
      ⟨.error (.unsent out.address.text "connection closed before message completed"), some out⟩
    | .answered status body complete => .answered out status body complete

def sendAuthorized (token : Except TokenFault String) (server : Outgoing → Exchange)
    (r : Http.Request) : Call :=
  Outgoing.call server ((token.mapError .token).bind fun t => Outgoing.authorized t r)

def sendPlain (server : Outgoing → Exchange) (r : Http.Request) : Call :=
  Outgoing.call server (Outgoing.plain r)

end TracedService
