import Relata.Json.Printer

/-!
# Literals of the generated module

How texts of the model stand in the generated module: as string literals, in lists of strings, as
keys of object literals, and inside template literals.

## Main definitions

* `stringLiteral`, `stringList` — a string and a list of strings.
* `propertyKey` — a key, from its written form.
* `templateText` — the text of a template literal.
-/

namespace Relata.Source

/-- A string literal in double quotes. -/
def stringLiteral (s : String) : String := String.ofList (Json.stringText s.toList)

/-- A list literal of strings on one line. -/
def stringList (names : List String) : String :=
  "[" ++ ", ".intercalate (names.map stringLiteral) ++ "]"

/-- A key of an object literal. A plain `__proto__` would set the prototype of the object instead
of a property, so it is written as a computed key. -/
def propertyKey (key : String) : String :=
  if key = "__proto__" || key = "\"__proto__\"" then "[\"__proto__\"]" else key

/-- A character inside a template literal. -/
def templateChar (c : Char) : List Char :=
  if c = '\\' || c = '\x60' || c = '$' then ['\\', c] else [c]

/-- A text inside a template literal. -/
def templateText (s : String) : String := String.ofList (s.toList.flatMap templateChar)

end Relata.Source
