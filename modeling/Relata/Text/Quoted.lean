import Relata.Text.Printable

/-!
# Text inside messages

How a text that may hold anything is shown on one line of a message or of a comment: what has no
printed form is written as an escape.

## Main definitions

* `EscapeStyle` — which of the optional escapes are used.
* `EscapeStyle.text` — a text with its escapes.
* `quoted` — a text between double quotes, as error messages name it.
* `commentText` — a text as it stands in a comment.
-/

namespace Relata.Text

/-- The two decisions that quoting and commenting make differently. -/
structure EscapeStyle where
  /-- Whether an apostrophe is escaped. -/
  apostrophe : Bool
  /-- Whether a character that extends a grapheme is escaped behind another character too. -/
  everyExtender : Bool
  deriving DecidableEq, Repr, Inhabited

/-- The escape of a character by its code point, in lower-case hexadecimal. -/
def codePointEscape (c : Char) : List Char :=
  ['\\', 'u', '\x7b'] ++ Nat.toDigits 16 c.toNat ++ ['\x7d']

/-- One character as it is written; `lone` says that no character is before it. -/
def EscapeStyle.char (style : EscapeStyle) (lone : Bool) (c : Char) : List Char :=
  if c = '\x00' then ['\\', '0']
  else if c = '\t' then ['\\', 't']
  else if c = '\r' then ['\\', 'r']
  else if c = '\n' then ['\\', 'n']
  else if c = '\\' || c = '"' then ['\\', c]
  else if c = '\x27' then (if style.apostrophe then ['\\', c] else [c])
  else if (lone || style.everyExtender) && extendsGrapheme c then codePointEscape c
  else if isPrintable c then [c]
  else codePointEscape c

/-- A text as it is written in the given style. -/
def EscapeStyle.text (style : EscapeStyle) : List Char → List Char
  | [] => []
  | c :: rest => style.char true c ++ rest.flatMap (style.char false)

/-- Between quotes an apostrophe stands for itself and every extender is escaped. -/
def EscapeStyle.quotation : EscapeStyle := ⟨false, true⟩

/-- In a comment an apostrophe is escaped and an extender only where nothing is before it. -/
def EscapeStyle.comment : EscapeStyle := ⟨true, false⟩

/-- A string between double quotes. -/
def quoted (s : String) : String :=
  "\"" ++ String.ofList (EscapeStyle.quotation.text s.toList) ++ "\""

/-- A string as it stands in a one-line comment. -/
def commentText (s : String) : String :=
  String.ofList (EscapeStyle.comment.text s.toList)

end Relata.Text
