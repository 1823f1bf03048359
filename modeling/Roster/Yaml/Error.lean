import Roster.Yaml.Mark

/-! # Malformed YAML

A fault of the text itself: what is wrong, where, and during what it was found.
-/
namespace Roster.Yaml

/-- What was being read when a fault was found. -/
inductive Activity where
  | directive | versionDirective | tagDirective | tagDirectiveStart | tagDirectiveHandle
  | tagDirectivePrefix
  | anchor | aliasName | tag | tagUri | blockScalar | quotedScalar | quotedEscape | plainScalar
  | simpleKey | nextToken | node | blockNode | flowNode | blockCollection | blockMapping
  | flowSequence | flowMapping
  deriving DecidableEq

/-- What is wrong with a text. -/
inductive Cause where
  | unclosedQuote | documentLineInQuote | unknownEscape | badHexDigit | badCodePoint
  | tabIndentation | flowColon | indentationZero | tabInBlock | notLineEnd
  | blockEntryContext | keyContext | valueContext | noColon | noToken
  | anchorName | tagBang | tagUriMissing | tagClose | tagEnd | tagEscape | tagLead | tagTrail
  | directiveName | directiveNameEnd | directiveUnknown | versionDigit | versionMissing
  | versionLong | tagDirectiveSpace | tagDirectiveEnd
  | documentStart | versionTwice | versionUnsupported | tagTwice | tagHandle
  | nodeContent | blockEntry | mappingKey | flowSequenceEnd | flowMappingEnd
  deriving DecidableEq

namespace Activity

def text : Activity → String
  | directive => "while scanning a directive"
  | versionDirective => "while scanning a %YAML directive"
  | tagDirective => "while scanning a %TAG directive"
  | tagDirectiveStart => "while scanning a tag directive"
  | tagDirectiveHandle => "while parsing a tag directive"
  | tagDirectivePrefix => "while parsing a %TAG directive"
  | anchor => "while scanning an anchor"
  | aliasName => "while scanning an alias"
  | tag => "while scanning a tag"
  | tagUri => "while parsing a tag"
  | blockScalar => "while scanning a block scalar"
  | quotedScalar => "while scanning a quoted scalar"
  | quotedEscape => "while parsing a quoted scalar"
  | plainScalar => "while scanning a plain scalar"
  | simpleKey => "while scanning a simple key"
  | nextToken => "while scanning for the next token"
  | node => "while parsing a node"
  | blockNode => "while parsing a block node"
  | flowNode => "while parsing a flow node"
  | blockCollection => "while parsing a block collection"
  | blockMapping => "while parsing a block mapping"
  | flowSequence => "while parsing a flow sequence"
  | flowMapping => "while parsing a flow mapping"

end Activity

namespace Cause

def text : Cause → String
  | unclosedQuote => "found unexpected end of stream"
  | documentLineInQuote => "found unexpected document indicator"
  | unknownEscape => "found unknown escape character"
  | badHexDigit => "did not find expected hexadecimal number"
  | badCodePoint => "found invalid Unicode character escape code"
  | tabIndentation => "found a tab character that violates indentation"
  | flowColon => "found unexpected ':'"
  | indentationZero => "found an indentation indicator equal to 0"
  | tabInBlock => "found a tab character where an indentation space is expected"
  | notLineEnd => "did not find expected comment or line break"
  | blockEntryContext => "block sequence entries are not allowed in this context"
  | keyContext => "mapping keys are not allowed in this context"
  | valueContext => "mapping values are not allowed in this context"
  | noColon => "could not find expected ':'"
  | noToken => "found character that cannot start any token"
  | anchorName => "did not find expected alphabetic or numeric character"
  | tagBang => "did not find expected '!'"
  | tagUriMissing => "did not find expected tag URI"
  | tagClose => "did not find the expected '>'"
  | tagEnd => "did not find expected whitespace or line break"
  | tagEscape => "did not find URI escaped octet"
  | tagLead => "found an incorrect leading UTF-8 octet"
  | tagTrail => "found an incorrect trailing UTF-8 octet"
  | directiveName => "could not find expected directive name"
  | directiveNameEnd => "found unexpected non-alphabetical character"
  | directiveUnknown => "found unknown directive name"
  | versionDigit => "did not find expected digit or '.' character"
  | versionMissing => "did not find expected version number"
  | versionLong => "found extremely long version number"
  | tagDirectiveSpace => "did not find expected whitespace"
  | tagDirectiveEnd => "did not find expected whitespace or line break"
  | documentStart => "did not find expected <document start>"
  | versionTwice => "found duplicate %YAML directive"
  | versionUnsupported => "found incompatible YAML document"
  | tagTwice => "found duplicate %TAG directive"
  | tagHandle => "found undefined tag handle"
  | nodeContent => "did not find expected node content"
  | blockEntry => "did not find expected '-' indicator"
  | mappingKey => "did not find expected key"
  | flowSequenceEnd => "did not find expected ',' or ']'"
  | flowMappingEnd => "did not find expected ',' or '\x7d'"

end Cause

namespace Mark

/-- Whether a mark is at the start of a text; such a mark is left out of messages. -/
def isStart (m : Mark) : Bool :=
  m.line == 0 && m.column == 0

/-- A place in words, counted from one. -/
def text (m : Mark) : String :=
  s!"line {m.line + 1} column {m.column + 1}"

end Mark

/-- A fault of a YAML text. -/
structure Malformed where
  cause : Cause
  mark : Mark
  context : Option (Activity × Mark)
  deriving DecidableEq

namespace Malformed

/-- The fault in words: what, where, and during what, with the place where that began unless it
is the same place. -/
def message (e : Malformed) : String :=
  let place := if e.mark.isStart then "" else " at " ++ e.mark.text
  let during := match e.context with
    | none => ""
    | some (a, m) =>
      let same := m.line == e.mark.line && m.column == e.mark.column
      ", " ++ a.text ++ (if m.isStart || same then "" else " at " ++ m.text)
  e.cause.text ++ place ++ during

end Malformed

end Roster.Yaml
