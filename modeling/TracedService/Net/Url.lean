import TracedService.Net.Host

/-! Web addresses: how a text is read as one, and the normal form in which it is written. Schemes
that are known name a host behind any number of slashes; in every other address the part behind the
scheme is taken as it stands unless slashes say that it is a host or a path. -/

namespace TracedService

inductive UrlFault where
  | host (f : HostFault)
  | badPort
  | relative
  deriving DecidableEq, Repr

namespace UrlFault

def message : UrlFault → String
  | host f => f.message
  | badPort => "invalid port number"
  | relative => "relative URL without a base"

end UrlFault

/-- An address in its normal form: all parts are escaped, a port is the scheme's own only if it is
left out, and the dots of a path have been worked out. -/
structure Url where
  scheme : List Char
  username : List Char := []
  password : Option (List Char) := none
  host : Option Host
  port : Option Nat := none
  path : List Char
  query : Option (List Char) := none
  fragment : Option (List Char) := none
  deriving DecidableEq, Repr

namespace Url

def knownPorts : List (String × Nat) :=
  [("http", 80), ("https", 443), ("ws", 80), ("wss", 443), ("ftp", 21)]

def defaultPort? (scheme : List Char) : Option Nat :=
  (knownPorts.find? fun (name, _) => name.toList = scheme).map Prod.snd

def fileScheme : List Char :=
  "file".toList

def fragmentEscapes : List Char := " \"<>\x60".toList

def queryEscapes : List Char := " \"#<>".toList

def pathEscapes : List Char := fragmentEscapes ++ "#?\x7b\x7d".toList

def userEscapes : List Char := pathEscapes ++ "/:;=@[\\]^|".toList

def escape (escapes : List Char) : List Char → List Char :=
  Text.Percent.encode fun c => Host.isPrintable c && !escapes.contains c

def dots : List String := [".", "%2e", "%2E"]

def isDot (segment : List Char) : Bool :=
  dots.any fun d => d.toList = segment

def isDoubleDot (segment : List Char) : Bool :=
  dots.any fun d => dots.any fun e => (d ++ e).toList = segment

/-- Segments of a path, from which the dots have been worked out; the latest segment comes first. -/
def segments (done : List (List Char)) : List (List Char) → List (List Char)
  | [] => done
  | [s] =>
    if isDot s then [] :: done
    else if isDoubleDot s then [] :: done.drop 1
    else s :: done
  | s :: rest =>
    if isDot s then segments done rest
    else if isDoubleDot s then segments (done.drop 1) rest
    else segments (s :: done) rest

def readPath (s : List Char) : List Char :=
  let s := match s with
    | '/' :: r => r
    | _ => s
  '/' :: Text.joinWith '/' ((segments [] (Text.splitOn '/' s)).reverse.map (escape pathEscapes))

def scheme? (s : List Char) : Option (List Char × List Char) := do
  let (scheme, rest) ← Text.cutFirst? ':' s
  let isSchemeChar := fun c => Text.isLetter c || Text.isDigit c || "+-.".toList.contains c
  if scheme.head?.any Text.isLetter && scheme.all isSchemeChar then
    some (scheme.map Text.lower, rest)
  else none

def hostLength (inside : Bool) : List Char → Nat
  | [] => 0
  | c :: r =>
    if c = ':' && !inside then 0
    else hostLength (c = '[' || (inside && c ≠ ']')) r + 1

def readPort (scheme : List Char) : List Char → Except UrlFault (Option Nat)
  | ':' :: digits =>
    let n := Text.digitsValue digits
    if !digits.all Text.isDigit || 65535 < n then .error .badPort
    else .ok (if digits.isEmpty || defaultPort? scheme = some n then none else some n)
  | _ => .ok none

def readAuthority (u : Url) (s : List Char) : Except UrlFault Url := do
  let known := (defaultPort? u.scheme).isSome
  let (user, place) := match Text.cutLast? '@' s with
    | some (user, place) => (user, place)
    | none => ([], s)
  let (name, secret) := match Text.cutFirst? ':' user with
    | some (name, secret) => (name, if secret.isEmpty then none else some secret)
    | none => (user, none)
  let n := hostLength false place
  let (hostText, portText) := (place.take n, place.drop n)
  if hostText.isEmpty && (known || !portText.isEmpty || !name.isEmpty || secret.isSome) then
    throw (.host .empty)
  let host ← ((if known then Host.read else Host.readOpaque) hostText).mapError .host
  return { u with
    username := escape userEscapes name
    password := secret.map (escape userEscapes)
    host := some host
    port := ← readPort u.scheme portText }

def isDrive : List Char → Bool
  | [c, d] => Text.isLetter c && (d = ':' || d = '|')
  | _ => false

/-- Host and path of a file. The machine itself has no name, and slashes in front count once. -/
def readFile (u : Url) (s : List Char) : Except UrlFault Url := do
  let path (t : List Char) : List Char := '/' :: (readPath t).dropWhile (· = '/')
  match s with
  | '/' :: '/' :: r =>
    let name := r.takeWhile (· ≠ '/')
    if name.isEmpty || isDrive name then return { u with path := path r }
    else
      let host ← (Host.read name).mapError .host
      let host := if host = .name "localhost".toList then .name [] else host
      return { u with host := some host, path := path (r.drop name.length) }
  | _ => return { u with path := path s }

def readMain (u : Url) (s : List Char) : Except UrlFault Url :=
  let slashed := s.map fun c => if c = '\\' then '/' else c
  if u.scheme = fileScheme then readFile { u with host := some (.name []) } slashed
  else if (defaultPort? u.scheme).isSome then
    let s := slashed.dropWhile (· = '/')
    let place := s.takeWhile (· ≠ '/')
    readAuthority { u with path := readPath (s.drop place.length) } place
  else
    match s with
    | '/' :: '/' :: r =>
      let place := r.takeWhile (· ≠ '/')
      let path := r.drop place.length
      readAuthority { u with path := if path.isEmpty then [] else readPath path } place
    | '/' :: _ => .ok { u with path := readPath s }
    | _ => .ok { u with path := escape [] s }

/-- Blanks and controls at both ends are dropped, and tabs and line ends everywhere. -/
def clean (s : List Char) : List Char :=
  let isEdge := fun c : Char => c.toNat ≤ 32
  (((s.dropWhile isEdge).reverse.dropWhile isEdge).reverse).filter fun c =>
    !([9, 10, 13].contains c.toNat)

def read (s : List Char) : Except UrlFault Url :=
  match scheme? (clean s) with
  | none => .error .relative
  | some (scheme, rest) =>
    let known := scheme = fileScheme || (defaultPort? scheme).isSome
    let (rest, fragment) := match Text.cutFirst? '#' rest with
      | some (r, f) => (r, some f)
      | none => (rest, none)
    let (main, query) := match Text.cutFirst? '?' rest with
      | some (r, q) => (r, some q)
      | none => (rest, none)
    let queryEscapes := queryEscapes ++ if known then ['\''] else []
    readMain
      { scheme, host := none, path := []
        query := query.map (escape queryEscapes)
        fragment := fragment.map (escape fragmentEscapes) } main

def hasHost (u : Url) : Bool :=
  u.host.any (· != .name [])

def isSecure (u : Url) : Bool :=
  u.scheme = "https".toList

def isHttp (u : Url) : Bool :=
  u.scheme = "http".toList || u.isSecure

def user? (u : Url) : Option (List Char × Option (List Char)) := do
  let name ← Text.Percent.decode? u.username
  let secret := u.password.bind Text.Percent.decode?
  if name.isEmpty && secret.isNone then none else some (name, secret)

/-- The address without user and password, which are sent in a header instead. -/
def withoutUser (u : Url) : Url :=
  if u.user?.isSome then { u with username := [], password := none } else u

def text (u : Url) : String :=
  let secret := match u.password with
    | some p => ':' :: p
    | none => []
  let user := u.username ++ secret
  let place := match u.host with
    | some h =>
      "//".toList ++ user ++ (if user.isEmpty then [] else ['@']) ++ h.text ++
        match u.port with
        | some n => ':' :: (toString n).toList
        | none => []
    | none => if Text.startsWith "//".toList u.path then "/.".toList else []
  let part (mark : Char) (t : Option (List Char)) : List Char :=
    match t with
    | some t => mark :: t
    | none => []
  String.ofList (u.scheme ++ ':' :: place ++ u.path ++ part '?' u.query ++ part '#' u.fragment)

end Url

end TracedService
