import TracedService.Credentials.RsaKey
import TracedService.Json.Reader

/-! Key files of service accounts: a JSON object with a private key, the account's address and the
server that gives out tokens. -/

namespace TracedService

structure KeyFile where
  projectId : Option String
  privateKey : RsaKey
  clientEmail : String
  tokenUri : String
  deriving DecidableEq, Repr

inductive KeyFileFault where
  | missing
  | form (f : Json.Fault)
  | noKey (f : Pem.Fault)
  | badKey
  deriving DecidableEq, Repr

namespace KeyFileFault

def message : KeyFileFault → String
  | missing =>
    "failed to open application credentials file: No such file or directory (os error 2)"
  | form f => "failed to deserialize ApplicationCredentials: " ++ f.message
  | noKey f => "failed to parse PKCS#8 RSA key pair: " ++ f.message
  | badKey => "invalid private key in credentials"

end KeyFileFault

namespace KeyFile

open Json (Reader)

structure Fields where
  projectId : Option (Option String) := none
  privateKey : Option String := none
  clientEmail : Option String := none
  tokenUri : Option String := none

def once {α : Type} (name : String) (place : Option α) : Reader Unit :=
  if place.isSome then throw (.duplicateField name) else pure ()

def entries : Nat → Bool → Fields → Reader Fields
  | 0, _, _ => throw .endInObject
  | fuel + 1, first, f => do
    match ← Reader.key? first with
    | none => return f
    | some "project_id" =>
      once "project_id" f.projectId
      Reader.colon
      entries fuel false { f with projectId := some (← Reader.optionalText) }
    | some "private_key" =>
      once "private_key" f.privateKey
      Reader.colon
      entries fuel false { f with privateKey := some (← Reader.text) }
    | some "client_email" =>
      once "client_email" f.clientEmail
      Reader.colon
      entries fuel false { f with clientEmail := some (← Reader.text) }
    | some "token_uri" =>
      once "token_uri" f.tokenUri
      Reader.colon
      entries fuel false { f with tokenUri := some (← Reader.text) }
    | some _ =>
      Reader.colon
      Reader.skip (2 * (← get).length + 2)
      entries fuel false f

def need (name : String) : Option String → Reader String
  | some s => pure s
  | none => throw (.missingField name)

def item (index : Nat) {α : Type} (read : Reader α) : Reader α := do
  match ← Reader.look? with
  | none => throw .endInList
  | some ']' =>
    throw (.wrongLength index "struct ServiceAccountKey with 4 elements")
  | some c =>
    if index = 0 then read
    else if c = ',' then
      Reader.take
      if (← Reader.look?) = some ']' then throw .trailingComma else read
    else throw .noListEnd

def listEnd : Reader Unit := do
  match ← Reader.look? with
  | some ']' => Reader.take
  | some ',' =>
    Reader.take
    throw (if (← Reader.look?) = some ']' then .trailingComma else .trailingText)
  | some _ => throw .trailingText
  | none => throw .endInList

/-- The values of a key file, of which the key is still a text. -/
structure Values where
  projectId : Option String
  privateKey : String
  clientEmail : String
  tokenUri : String

/-- An object, or a list of the values in order. -/
def reader : Reader Values := do
  let k ← match ← Reader.look? with
    | none => throw .endInValue
    | some '\x7b' =>
      Reader.take
      let f ← entries ((← get).length + 1) true {}
      pure ⟨f.projectId.getD none, ← need "private_key" f.privateKey,
        ← need "client_email" f.clientEmail, ← need "token_uri" f.tokenUri⟩
    | some '[' =>
      Reader.take
      let k : Values := ⟨← item 0 Reader.optionalText, ← item 1 Reader.text,
        ← item 2 Reader.text, ← item 3 Reader.text⟩
      listEnd
      pure k
    | some c => Reader.wrongType "struct ServiceAccountKey" c
  Reader.finish
  return k

def keyOfText (text : String) : Except KeyFileFault RsaKey :=
  match Pem.read RsaKey.label (Text.Utf8.encodeText text) with
  | .error f => .error (.noKey f)
  | .ok bs =>
    match (RsaKey.ofBytes? bs).filter (·.isUsable) with
    | some k => .ok k
    | none => .error .badKey

def read (content : String) : Except KeyFileFault KeyFile :=
  match reader.run content.toList with
  | .error f => .error (.form f)
  | .ok (v, _) => (keyOfText v.privateKey).map fun k => ⟨v.projectId, k, v.clientEmail, v.tokenUri⟩

end KeyFile

end TracedService
