import Relata.Text.Quoted

/-!
# What is wrong with a YAML text

## Main definitions

* `Mark` — a place in a text.
* `YamlFault`, `YamlError` — what is wrong, and where; their `message`s are the wording.
-/

namespace Relata.Yaml

/-- A place in a text: characters before it, its line from one, and its column from zero. -/
structure Mark where
  index : Nat
  line : Nat
  column : Nat
  deriving DecidableEq, Repr, Inhabited

/-- What can be wrong with a YAML text. -/
inductive YamlFault
  /- Characters and blanks. -/
  | unexpectedCharacter (c : Char)
  | indentation
  | tabIndentation
  | tabAfterKey
  | whitespaceExpected
  | commentNotSeparated
  | afterDocumentEnd
  /- Keys, values and entries. -/
  | keyExpected
  | colonExpected
  | tooDeep
  | entryInFlow
  | entryNotAllowed
  | entryBlank
  | keyNotAllowed
  | valueNotAllowed
  | valueBlank
  | valuePlacement
  /- Scalars. -/
  | tabInPlain
  | dashBeforeFlow
  | flowIndentation
  | zeroIndentation
  | blockHeader
  | tabInBlock
  | blockIndentation
  | documentMarkInQuotes
  | unclosedQuotes
  | quotedIndentation
  | tabInQuotes
  | unknownEscape
  | hexDigitExpected
  | invalidCodePoint
  | afterQuotes
  /- Anchors, tags and directives. -/
  | anchorName
  | anchorIndentation
  | tagHandle
  | tagDirectiveHandle
  | tagPrefix
  | tagDirectiveEnd
  | tagClose
  | tagUri
  | tagEnd
  | uriEscape
  | uriFirstByte
  | uriNextByte
  | uriCodePoint
  | undeclaredHandle
  | directiveName
  | directiveNameEnd
  | directiveEnd
  | versionNumber
  | versionTooLong
  | versionDot
  | repeatedVersion
  | documentEndExpected
  /- The structure. -/
  | documentStartExpected
  | contentExpected
  | unknownAnchor
  | blockKeyExpected
  | blockEntryExpected
  | flowMappingEnd
  | flowSequenceEnd
  | endOfText
  /-- A mapping has two members with one key; `key` is how it is shown. -/
  | repeatedKey (key : String)
  deriving DecidableEq, Repr, Inhabited

/-- The wording of a fault. -/
def YamlFault.message : YamlFault → String
  | unexpectedCharacter c => "unexpected character: `" ++ c.toString ++ "'"
  | indentation => "invalid indentation"
  | tabIndentation => "tabs disallowed within this context (block indentation)"
  | tabAfterKey => "tabs disallowed in this context"
  | whitespaceExpected => "expected whitespace"
  | commentNotSeparated => "comments must be separated from other tokens by whitespace"
  | afterDocumentEnd => "invalid content after document end marker"
  | keyExpected => "simple key expected"
  | colonExpected => "simple key expect ':'"
  | tooDeep => "recursion limit exceeded"
  | entryInFlow => "\"-\" is only valid inside a block"
  | entryNotAllowed => "block sequence entries are not allowed in this context"
  | entryBlank => "'-' must be followed by a valid YAML whitespace"
  | keyNotAllowed => "mapping keys are not allowed in this context"
  | valueNotAllowed => "mapping values are not allowed in this context"
  | valueBlank => "':' must be followed by a valid YAML whitespace"
  | valuePlacement => "illegal placement of ':' indicator"
  | tabInPlain => "while scanning a plain scalar, found a tab"
  | dashBeforeFlow => "plain scalar cannot start with '-' followed by ,[]\x7b\x7d"
  | flowIndentation => "invalid indentation in flow construct"
  | zeroIndentation => "while scanning a block scalar, found an indentation indicator equal to 0"
  | blockHeader => "while scanning a block scalar, did not find expected comment or line break"
  | tabInBlock => "a block scalar content cannot start with a tab"
  | blockIndentation => "wrongly indented line in block scalar"
  | documentMarkInQuotes => "while scanning a quoted scalar, found unexpected document indicator"
  | unclosedQuotes => "while scanning a quoted scalar, found unexpected end of stream"
  | quotedIndentation => "invalid indentation in quoted scalar"
  | tabInQuotes => "tab cannot be used as indentation"
  | unknownEscape => "while parsing a quoted scalar, found unknown escape character"
  | hexDigitExpected => "while parsing a quoted scalar, did not find expected hexadecimal number"
  | invalidCodePoint =>
    "while parsing a quoted scalar, found invalid Unicode character escape code"
  | afterQuotes => "invalid trailing content after double-quoted scalar"
  | anchorName => "while scanning an anchor or alias, did not find expected alphabetic or " ++
      "numeric character"
  | anchorIndentation => "invalid indentation for anchor"
  | tagHandle => "while scanning a tag, did not find expected '!'"
  | tagDirectiveHandle => "while parsing a tag directive, did not find expected '!'"
  | tagPrefix => "invalid global tag character"
  | tagDirectiveEnd => "while scanning TAG, did not find expected whitespace or line break"
  | tagClose => "while scanning a verbatim tag, did not find the expected '>'"
  | tagUri => "while parsing a tag, did not find expected tag URI"
  | tagEnd => "while scanning a tag, did not find expected whitespace or line break"
  | uriEscape => "while parsing a tag, found an invalid escape sequence"
  | uriFirstByte => "while parsing a tag, found an incorrect leading UTF-8 byte"
  | uriNextByte => "while parsing a tag, found an incorrect trailing UTF-8 byte"
  | uriCodePoint => "while parsing a tag, found an invalid UTF-8 codepoint"
  | undeclaredHandle => "the handle wasn't declared"
  | directiveName => "while scanning a directive, could not find expected directive name"
  | directiveNameEnd => "while scanning a directive, found unexpected non-alphabetical character"
  | directiveEnd => "while scanning a directive, did not find expected comment or line break"
  | versionNumber => "while scanning a YAML directive, did not find expected version number"
  | versionTooLong => "while scanning a YAML directive, found extremely long version number"
  | versionDot => "while scanning a YAML directive, did not find expected digit or '.' character"
  | repeatedVersion => "duplicate version directive"
  | documentEndExpected => "missing explicit document end marker before directive"
  | documentStartExpected => "did not find expected <document start>"
  | contentExpected => "while parsing a node, did not find expected content"
  | unknownAnchor => "while parsing node, found unknown anchor"
  | blockKeyExpected => "while parsing a block mapping, did not find expected key"
  | blockEntryExpected =>
    "while parsing a block collection, did not find expected '-' indicator"
  | flowMappingEnd => "while parsing a flow mapping, did not find expected ',' or '\x7d'"
  | flowSequenceEnd => "while parsing a flow sequence, expected ',' or ']'"
  | endOfText => "unexpected eof"
  | repeatedKey key => key ++ ": duplicated key in mapping"

/-- A fault and its place. -/
structure YamlError where
  fault : YamlFault
  mark : Mark
  deriving DecidableEq, Repr, Inhabited

/-- The wording of an error. -/
def YamlError.message (e : YamlError) : String :=
  e.fault.message ++ " at byte " ++ toString e.mark.index ++ " line " ++ toString e.mark.line ++
    " column " ++ toString (e.mark.column + 1)

end Relata.Yaml
