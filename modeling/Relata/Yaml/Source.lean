import Relata.Yaml.Fault

/-!
# The text behind a place

A YAML text is read character by character with its place. A NUL character ends it.

## Main definitions

* `Source` — a place with the text behind it.
* `Source.skip`, `Source.skipBreak`, … — steps over characters, line ends and blanks.
* `Source.skipGap` — the step over blanks and a comment up to the end of the line.
-/

namespace Relata.Yaml

/-! ### Characters -/

/-- Whether a character ends the text. -/
def isEnd (c : Char) : Bool := c = '\x00'

/-- Whether a character ends a line. -/
def isBreak (c : Char) : Bool := c = '\n' || c = '\r'

/-- Whether a character is a blank inside a line. -/
def isBlank (c : Char) : Bool := c = ' ' || c = '\t'

/-- Whether a character ends a line or the text. -/
def isBreakOrEnd (c : Char) : Bool := isBreak c || isEnd c

/-- Whether a character is a blank or ends a line or the text. -/
def isGap (c : Char) : Bool := isBlank c || isBreakOrEnd c

/-- Whether a character belongs to the syntax of flow collections. -/
def isFlow (c : Char) : Bool := c = ',' || c = '[' || c = ']' || c = '\x7b' || c = '\x7d'

/-- Whether a character may stand in the name of a directive or a handle. -/
def isNameChar (c : Char) : Bool := c.isAlphanum || c = '_' || c = '-'

/-! ### Sources -/

/-- A place with the text behind it. -/
structure Source where
  mark : Mark
  rest : List Char
  /-- Whether only blanks stand before the place in its line. -/
  fresh : Bool
  deriving DecidableEq, Repr, Inhabited

namespace Source

/-- The start of a text. -/
def ofText (text : String) : Source := ⟨⟨0, 1, 0⟩, text.toList, true⟩

/-- The character `n` places on; NUL behind the end. -/
def look (s : Source) (n : Nat) : Char := s.rest.getD n '\x00'

/-- The next character. -/
def char (s : Source) : Char := s.look 0

/-- The column of the place. -/
def column (s : Source) : Int := s.mark.column

/-- The place `n` characters on in the same line. -/
def forward (s : Source) (n : Nat) (fresh : Bool) : Source :=
  ⟨⟨s.mark.index + n, s.mark.line, s.mark.column + n⟩, s.rest.drop n, fresh⟩

/-- Steps over `n` blanks. -/
def skipBlanks (s : Source) (n : Nat) : Source := s.forward n s.fresh

/-- Steps over `n` characters that are no blanks. -/
def skipN (s : Source) (n : Nat) : Source := s.forward n false

/-- Steps over a character that is no blank. -/
def skip (s : Source) : Source := s.skipN 1

/-- Steps over a line end, if there is one. -/
def skipBreak (s : Source) : Source :=
  let size := if s.char = '\r' && s.look 1 = '\n' then 2 else if isBreak s.char then 1 else 0
  if size = 0 then s
  else ⟨⟨s.mark.index + size, s.mark.line + 1, 0⟩, s.rest.drop size, true⟩

/-- Steps over the characters of a class. -/
def skipWhile (p : Char → Bool) (s : Source) : Source :=
  match (s.rest.takeWhile p).length with
  | 0 => s
  | n => s.skipN n

/-- Steps over the rest of a line. -/
def skipLine (s : Source) : Source := s.skipWhile (!isBreakOrEnd ·)

/-- An error at this place. -/
def fail {α : Type} (s : Source) (fault : YamlFault) : Except YamlError α := .error ⟨fault, s.mark⟩

/-- Whether three of a character with a gap behind them start the line. -/
def atMark (s : Source) (c : Char) : Bool :=
  s.mark.column = 0 && s.char = c && s.look 1 = c && s.look 2 = c && isGap (s.look 3)

/-- Whether the line starts or ends a document. -/
def atDocumentMark (s : Source) : Bool := s.atMark '-' || s.atMark '.'

end Source

/-- A place behind blanks, and which kinds of them there were. -/
structure Gap where
  source : Source
  tabs : Bool
  spaces : Bool
  deriving DecidableEq, Repr, Inhabited

/-- Steps over blanks, tabs only if they are allowed, and a comment behind them. -/
def Source.skipGap (s : Source) (allowTabs : Bool) : Except YamlError Gap :=
  let blanks := s.rest.takeWhile fun c => c = ' ' || (allowTabs && c = '\t')
  let t := s.skipBlanks blanks.length
  if t.char ≠ '#' then .ok ⟨t, blanks.contains '\t', blanks.contains ' '⟩
  else if blanks.isEmpty then t.fail .commentNotSeparated
  else .ok ⟨t.skipLine, blanks.contains '\t', blanks.contains ' '⟩

/-- Steps over blanks and a comment. -/
def Source.skipBlanksAndComment (s : Source) : Except YamlError Source :=
  (s.skipGap true).map Gap.source

end Relata.Yaml
