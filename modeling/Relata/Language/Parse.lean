import Relata.Language.Definition
import Relata.Text.Lines

/-!
# Reading models

The model that a text in the model language describes. All of the text has to be used; otherwise
the error names the first character that could not be.

## Main definitions

* `ParseError` — where a text stops being a model; `ParseError.message` shows the place.
* `Model.parse` — the model that a text describes.
-/

namespace Relata

/-- The first place in a text that is part of no definition. -/
structure ParseError where
  /-- The number of bytes before the place. -/
  position : Nat
  /-- The number of the place's line, from one. -/
  line : Nat
  /-- The line, without the white space at its end. -/
  lineText : String
  /-- The number of the place's byte in its line, from one. -/
  column : Nat
  deriving DecidableEq, Repr, Inhabited

namespace ParseError

/-- The place between the two parts of a text. -/
def between (used rest : List Char) : ParseError :=
  let start := (used.reverse.takeWhile (· != '\n')).reverse
  ⟨Text.byteSize used, used.count '\n' + 1,
    String.ofList (Text.trimEnd ((Text.lines (start ++ rest)).headD [])),
    Text.byteSize start + 1⟩

/-- The error's text: the line, and a caret below the place. -/
def message (e : ParseError) : String :=
  "Parse error: 0: at line " ++ toString e.line ++ ", in Eof:\n" ++ e.lineText ++ "\n" ++
    String.ofList (List.replicate (e.column - 1) ' ') ++ "^\n\n"

/-- The error's text with the position behind it. -/
def display (e : ParseError) : String :=
  e.message ++ " at position " ++ toString e.position

end ParseError

/-- The model that a text describes. -/
def Model.parse (text : String) : Except ParseError Model :=
  let s := text.toList
  match Language.model s with
  | (m, []) => .ok m
  | (_, rest) => .error (.between (s.take (s.length - rest.length)) rest)

end Relata
