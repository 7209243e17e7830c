/-! Why a text is not one YAML document. What went wrong comes first in a message, then what was
being read. -/

namespace TracedService.Yaml

/-- Faults of characters and words come first, then faults of structure. `directive` says that the
text stands in a directive. -/
inductive Fault where
  | controlCharacter (position : Nat)
  | missedColon
  | strayEntry
  | strayKey
  | strayValue
  | strayCharacter
  | emptyAnchor
  | emptyAlias
  | openTagBracket
  | tagEnd
  | emptyTag (directive : Bool)
  | tagEscape (directive : Bool)
  | tagFirstByte (directive : Bool)
  | tagLaterByte (directive : Bool)
  | directiveName
  | directiveNameEnd
  | unknownDirective
  | directiveEnd
  | versionNumber
  | versionPoint
  | longVersion
  | handleStart
  | handleEnd
  | handleGap
  | handleTextEnd
  | zeroIndentation
  | blockHeader
  | blockTab
  | quotedIndicator
  | quotedEnd
  | unknownEscape
  | escapeDigits
  | escapeCode
  | plainColon
  | plainTab
  | documentStart
  | repeatedVersion
  | unknownVersion
  | repeatedHandle
  | unknownHandle
  | blockNode
  | flowNode
  | blockEntry
  | blockKey
  | flowEntry
  | flowKey
  | unknownAnchor
  | endOfStream
  | severalDocuments
  deriving DecidableEq, Repr

namespace Fault

private def tagContext (directive : Bool) : String :=
  if directive then "while parsing a %TAG directive" else "while parsing a tag"

def parts : Fault → String × Option String
  | controlCharacter position =>
    ("control characters are not allowed" ++
      (if position = 0 then "" else " at position " ++ toString position), none)
  | missedColon => ("could not find expected ':'", some "while scanning a simple key")
  | strayEntry => ("block sequence entries are not allowed in this context", none)
  | strayKey => ("mapping keys are not allowed in this context", none)
  | strayValue => ("mapping values are not allowed in this context", none)
  | strayCharacter =>
    ("found character that cannot start any token", some "while scanning for the next token")
  | emptyAnchor =>
    ("did not find expected alphabetic or numeric character", some "while scanning an anchor")
  | emptyAlias =>
    ("did not find expected alphabetic or numeric character", some "while scanning an alias")
  | openTagBracket => ("did not find the expected '>'", some "while scanning a tag")
  | tagEnd => ("did not find expected whitespace or line break", some "while scanning a tag")
  | emptyTag directive => ("did not find expected tag URI", some (tagContext directive))
  | tagEscape directive => ("did not find URI escaped octet", some (tagContext directive))
  | tagFirstByte directive =>
    ("found an incorrect leading UTF-8 octet", some (tagContext directive))
  | tagLaterByte directive =>
    ("found an incorrect trailing UTF-8 octet", some (tagContext directive))
  | directiveName =>
    ("could not find expected directive name", some "while scanning a directive")
  | directiveNameEnd =>
    ("found unexpected non-alphabetical character", some "while scanning a directive")
  | unknownDirective => ("found unknown directive name", some "while scanning a directive")
  | directiveEnd =>
    ("did not find expected comment or line break", some "while scanning a directive")
  | versionNumber =>
    ("did not find expected version number", some "while scanning a %YAML directive")
  | versionPoint =>
    ("did not find expected digit or '.' character", some "while scanning a %YAML directive")
  | longVersion =>
    ("found extremely long version number", some "while scanning a %YAML directive")
  | handleStart => ("did not find expected '!'", some "while scanning a tag directive")
  | handleEnd => ("did not find expected '!'", some "while parsing a tag directive")
  | handleGap => ("did not find expected whitespace", some "while scanning a %TAG directive")
  | handleTextEnd =>
    ("did not find expected whitespace or line break", some "while scanning a %TAG directive")
  | zeroIndentation =>
    ("found an indentation indicator equal to 0", some "while scanning a block scalar")
  | blockHeader =>
    ("did not find expected comment or line break", some "while scanning a block scalar")
  | blockTab =>
    ("found a tab character where an indentation space is expected",
      some "while scanning a block scalar")
  | quotedIndicator =>
    ("found unexpected document indicator", some "while scanning a quoted scalar")
  | quotedEnd => ("found unexpected end of stream", some "while scanning a quoted scalar")
  | unknownEscape => ("found unknown escape character", some "while parsing a quoted scalar")
  | escapeDigits =>
    ("did not find expected hexdecimal number", some "while parsing a quoted scalar")
  | escapeCode =>
    ("found invalid Unicode character escape code", some "while parsing a quoted scalar")
  | plainColon => ("found unexpected ':'", some "while scanning a plain scalar")
  | plainTab =>
    ("found a tab character that violates indentation", some "while scanning a plain scalar")
  | documentStart => ("did not find expected <document start>", none)
  | repeatedVersion => ("found duplicate %YAML directive", none)
  | unknownVersion => ("found incompatible YAML document", none)
  | repeatedHandle => ("found duplicate %TAG directive", none)
  | unknownHandle => ("found undefined tag handle", some "while parsing a node")
  | blockNode => ("did not find expected node content", some "while parsing a block node")
  | flowNode => ("did not find expected node content", some "while parsing a flow node")
  | blockEntry =>
    ("did not find expected '-' indicator", some "while parsing a block collection")
  | blockKey => ("did not find expected key", some "while parsing a block mapping")
  | flowEntry => ("did not find expected ',' or ']'", some "while parsing a flow sequence")
  | flowKey =>
    ("did not find expected ',' or '\x7d'", some "while parsing a flow mapping")
  | unknownAnchor => ("unknown anchor", none)
  | endOfStream => ("EOF while parsing a value", none)
  | severalDocuments =>
    ("deserializing from YAML containing more than one document is not supported", none)

def message (f : Fault) : String :=
  match f.parts with
  | (problem, some context) => problem ++ ", " ++ context
  | (problem, none) => problem

end Fault

end TracedService.Yaml
