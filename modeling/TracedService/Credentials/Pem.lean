import TracedService.Text.Base64

/-! Sections of text files that carry bytes: a line that opens a section and names what it holds,
the bytes in Base64, and a line that closes it. Everything outside of sections is passed over. -/

namespace TracedService.Pem

open Text.Utf8 (Bytes)

inductive Fault where
  | missingEnd (label : Bytes)
  | badStart (line : Bytes)
  | badContent (f : Text.Base64.Fault)
  | noSection
  deriving DecidableEq, Repr

namespace Fault

def numbers (bs : Bytes) : String :=
  "[" ++ ", ".intercalate (bs.map toString) ++ "]"

def message : Fault → String
  | missingEnd label => "missing section end marker: " ++ numbers label
  | badStart line => "illegal section start: " ++ numbers line
  | badContent f => "base64 decode error: " ++ f.message
  | noSection => "no items found"

end Fault

def opening : Bytes := Text.Utf8.encodeText "-----BEGIN "

def closing : Bytes := Text.Utf8.encodeText "-----END "

def dashes : Bytes := Text.Utf8.encodeText "-----"

def dash : UInt8 := 45

def knownLabels : List Bytes :=
  ["CERTIFICATE", "PUBLIC KEY", "RSA PRIVATE KEY", "PRIVATE KEY", "EC PRIVATE KEY", "X509 CRL",
    "CERTIFICATE REQUEST", "ECHCONFIG"].map Text.Utf8.encodeText

def lines : Bytes → List Bytes
  | [] => []
  | b :: r =>
    if b = 10 || b = 13 then [] :: lines r
    else
      match lines r with
      | [] => [[b]]
      | l :: ls => (b :: l) :: ls

/-- The label of a line that opens a section: five dashes have to follow it, among which and behind
which there may be blanks. -/
def label? (line : Bytes) : Option Bytes :=
  let back := line.reverse.takeWhile fun b => b = dash || b = 32
  let tail := (back.reverse.dropWhile (· = 32)).length
  if back.count dash = 5 then some ((line.take (line.length - tail)).drop opening.length) else none

def closes (label line : Bytes) : Bool :=
  (closing ++ label ++ dashes).isPrefixOf line

/-- The content of the first section of a kind, from the lines that are left, the label of the open
section and what it holds so far. Content that is no Base64 is a fault in every known section. -/
def scan (kind : Bytes) (label : Option Bytes) (content : Bytes) : List Bytes → Except Fault Bytes
  | [] =>
    match label with
    | some l => .error (.missingEnd l)
    | none => .error .noSection
  | line :: rest =>
    if opening.isPrefixOf line then
      match label? line with
      | some l => scan kind (some l) content rest
      | none => .error (.badStart line)
    else
      match label with
      | none => scan kind none content rest
      | some l =>
        if !closes l line then scan kind label (content ++ line) rest
        else if !knownLabels.contains l then scan kind none [] rest
        else
          match Text.Base64.decode content with
          | .error f => .error (.badContent f)
          | .ok bs => if l = kind then .ok bs else scan kind none [] rest

def read (kind text : Bytes) : Except Fault Bytes :=
  scan kind none [] (lines text)

end TracedService.Pem
