import Relata.Json.Value
import Relata.Text.Quoted
import Relata.Text.Lines

/-!
# What can be wrong with a JSON document

A fault is a cause. Where it comes from a text it has a place in it, counted in bytes; a fault in a
value that is already in memory has none.

## Main definitions

* `Fault` — the causes, and `Fault.message` for their wording.
* `Place` — where in a text a fault is seen; `Place.offset` is its byte offset.
* `Failure` — a fault and its place; `Failure.message` is the wording with line and column.
-/

namespace Relata.Json

/-- What stands where something else was expected. -/
inductive Found
  | null
  | bool (b : Bool)
  | number (n : Number)
  | string (s : String)
  | sequence
  | map
  /-- The bare name of an alternative that needs contents. -/
  | bareName
  deriving DecidableEq, Repr, Inhabited

/-- How a message names what was found. -/
def Found.name : Found → String
  | null => "null"
  | bool true => "boolean `true`"
  | bool false => "boolean `false`"
  | number (.integer n) => "integer `" ++ String.ofList (Number.integer n).text ++ "`"
  | number (.float bits) => "floating point `" ++ String.ofList (Number.float bits).text ++ "`"
  | string s => "string " ++ Text.quoted s
  | sequence => "sequence"
  | map => "map"
  | bareName => "unit variant"

/-- A cause why a text is no document, or a document not of the expected shape. -/
inductive Fault
  | eofInValue
  | eofInString
  | eofInList
  | eofInObject
  | expectedColon
  | expectedListCommaOrEnd
  | expectedObjectCommaOrEnd
  | expectedWord
  | expectedValue
  | invalidEscape
  | invalidNumber
  | numberOutOfRange
  | keyMustBeString
  | controlCharacter
  | loneSurrogate
  | unfinishedSurrogatePair
  | trailingComma
  | trailingCharacters
  | tooDeep
  | invalidType (found : Found) (expected : String)
  | invalidLength (length : Nat) (expected : String)
  | missingMember (name : String)
  | duplicateMember (name : String)
  | duplicateKey (key : String)
  | unknownAlternative (name : String) (known : List String)
  deriving DecidableEq, Repr, Inhabited

namespace Fault

/-- The names of a list of alternatives as a message gives them. -/
def alternatives : List String → String
  | [] => "there are no variants"
  | [a] => "expected `" ++ a ++ "`"
  | [a, b] => "expected `" ++ a ++ "` or `" ++ b ++ "`"
  | names => "expected one of " ++ ", ".intercalate (names.map fun n => "`" ++ n ++ "`")

/-- The wording of a fault. -/
def message : Fault → String
  | eofInValue => "EOF while parsing a value"
  | eofInString => "EOF while parsing a string"
  | eofInList => "EOF while parsing a list"
  | eofInObject => "EOF while parsing an object"
  | expectedColon => "expected `:`"
  | expectedListCommaOrEnd => "expected `,` or `]`"
  | expectedObjectCommaOrEnd => "expected `,` or `\x7d`"
  | expectedWord => "expected ident"
  | expectedValue => "expected value"
  | invalidEscape => "invalid escape"
  | invalidNumber => "invalid number"
  | numberOutOfRange => "number out of range"
  | keyMustBeString => "key must be a string"
  | controlCharacter => "control character (\\u0000-\\u001F) found while parsing a string"
  | loneSurrogate => "lone leading surrogate in hex escape"
  | unfinishedSurrogatePair => "unexpected end of hex escape"
  | trailingComma => "trailing comma"
  | trailingCharacters => "trailing characters"
  | tooDeep => "recursion limit exceeded"
  | invalidType found expected => "invalid type: " ++ found.name ++ ", expected " ++ expected
  | invalidLength n expected => "invalid length " ++ toString n ++ ", expected " ++ expected
  | missingMember name => "missing field `" ++ name ++ "`"
  | duplicateMember name => "duplicate field `" ++ name ++ "`"
  | duplicateKey key => "duplicate key '" ++ key ++ "'"
  | unknownAlternative name known => "unknown variant `" ++ name ++ "`, " ++ alternatives known

/-- Whether the fault lies inside a string literal. -/
def inString : Fault → Bool
  | eofInString | invalidEscape | controlCharacter | loneSurrogate | unfinishedSurrogatePair => true
  | _ => false

end Fault

/-! ### Places -/

/-- The four characters that may stand between the tokens of a document. -/
def isGap (c : Char) : Bool :=
  c = ' ' || c = '\n' || c = '\t' || c = '\r'

/-- A place in a text. -/
inductive Place
  /-- The place before the byte with this offset. -/
  | exact (offset : Nat)
  /-- Where a reader that gives up behind `offset` comes to rest: at the next token, behind it if
  it is the closing bracket of what is being read, and behind a comma of a list. -/
  | resting (offset : Nat) (closer : Option Char)
  deriving DecidableEq, Repr, Inhabited

namespace Place

/-- The text behind its first `n` bytes; a character is left out as a whole. -/
def dropBytes : Nat → List Char → List Char
  | _, [] => []
  | n, c :: rest => if n = 0 then c :: rest else dropBytes (n - c.utf8Size) rest

/-- The length of the gap at the start of a text. -/
def gap (s : List Char) : Nat := (s.takeWhile isGap).length

/-- The byte offset of a place in a text. -/
def offset (text : List Char) : Place → Nat
  | exact n => n
  | resting n closer =>
    let here := dropBytes n text
    let next := n + gap here
    match here.dropWhile isGap with
    | [] => next
    | c :: rest =>
      if closer = some c then next + 1
      else if closer = some ']' && c = ',' then next + 1 + gap rest
      else next

/-- Line and column of a byte offset, given those of the text's start: lines count from one,
columns are the bytes since the last line feed. -/
def lineColumn : Nat → Nat → Nat → List Char → Nat × Nat
  | line, column, _, [] => (line, column)
  | line, column, n, c :: rest =>
    if n = 0 then (line, column)
    else if n < c.utf8Size then (line, column + n)
    else if c = '\n' then lineColumn (line + 1) 0 (n - 1) rest
    else lineColumn line (column + c.utf8Size) (n - c.utf8Size) rest

end Place

/-- A fault and, in a text, its place. -/
structure Failure where
  fault : Fault
  place : Option Place
  deriving DecidableEq, Repr, Inhabited

namespace Failure

/-- A fault before the byte with the given offset. -/
def placed (offset : Nat) (fault : Fault) : Failure := ⟨fault, some (.exact offset)⟩

/-- A fault whose place is still to be found. -/
def unplaced (fault : Fault) : Failure := ⟨fault, none⟩

/-- Gives a failure without a place the place `p`. -/
def settle (p : Place) (f : Failure) : Failure :=
  ⟨f.fault, some (f.place.getD p)⟩

/-- The wording of a failure in a text. -/
def message (text : List Char) (f : Failure) : String :=
  match f.place with
  | none => f.fault.message
  | some p =>
    let (line, column) := Place.lineColumn 1 0 (p.offset text) text
    f.fault.message ++ " at line " ++ toString line ++ " column " ++ toString column

end Failure

end Relata.Json
