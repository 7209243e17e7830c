import TracedService.Credentials.KeyFile
import TracedService.FileContent
import TracedService.Http.Uri

/-! Where access tokens come from: the caller, or the application default credentials that are
searched for. The search itself is a library's; what it comes to is given. -/

namespace TracedService

/-- Asks the token server of an account for a token. -/
abbrev TokenServer := KeyFile → Except String String

inductive TokenFault where
  | refused (reason : String)
  | other (message : String)
  /-- What the account names is no address at all; whoever asks for a token is stopped. -/
  | noAddress
  deriving DecidableEq, Repr

def TokenFault.message : TokenFault → String
  | refused reason => "Failed to initialize span exporter: " ++ reason
  | other message => message
  | noAddress => "oneshot canceled"

inductive TokenSource where
  /-- The caller's; every request for a token ends like this. -/
  | given (answer : Except String String)
  | account (key : KeyFile)
  /-- Any other default credentials, as of a developer or of the machine; every request for a token
  ends like this. -/
  | ambient (answer : Except String String)

inductive CredentialsFault where
  | keyFile (f : KeyFileFault)
  | nowhere
  | other (message : String)
  deriving DecidableEq, Repr

namespace CredentialsFault

def message : CredentialsFault → String
  | keyFile f => f.message
  | nowhere => "no available authentication method found"
  | other message => message

end CredentialsFault

/-- What a search for application default credentials comes to. On its way it may send requests of
its own, to the metadata server or another one, and wait for the answers. -/
structure Discovery where
  result : Except CredentialsFault TokenSource
  requests : List String := []
  millis : Nat := 0

namespace TokenSource

def keyFileVariable : String := "GOOGLE_APPLICATION_CREDENTIALS"

def refused (reason : String) : TokenFault :=
  .refused ("Token refresh failed: " ++ reason)

/-- Asks for a token where a key file says; only a whole address can be asked at. -/
def ask (server : TokenServer) (key : KeyFile) : Except TokenFault String :=
  match Http.Uri.read true key.tokenUri.toList with
  | .error _ => .error .noAddress
  | .ok (.absolute ..) => (server key).mapError refused
  | .ok _ => .error (refused "HTTP request failed: client error (UserAbsoluteUriRequired)")

def token (server : TokenServer) : TokenSource → Except TokenFault String
  | given answer => answer.mapError .refused
  | account key => ask server key
  | ambient answer => answer.mapError refused

end TokenSource

/-- The search on a machine that has no credentials but a key file: the first place that is looked
at, and the only one with anything to find. -/
def Discovery.ofKeyFile (keyFile : Option FileContent) : Discovery where
  result :=
    match keyFile with
    | none => .error .nowhere
    | some file =>
      match file.text with
      | .error _ => .error (.keyFile .missing)
      | .ok content => ((KeyFile.read content).map .account).mapError .keyFile

end TracedService
