import Relata.Json.Value

/-!
# JSON texts

How a value is written: without blanks, members in their order, and in strings only what has to be
escaped.

## Main definitions

* `stringChar`, `stringText` — a string literal.
* `Value.text` — a value.
-/

namespace Relata.Json

/-- A hexadecimal digit in lower case. -/
def hexChar (n : Nat) : Char := Nat.digitChar (n % 16)

/-- One character inside a string literal. Quotes, backslashes and controls are escaped. -/
def stringChar (c : Char) : List Char :=
  if c = '"' then ['\\', '"']
  else if c = '\\' then ['\\', '\\']
  else if c = '\x08' then ['\\', 'b']
  else if c = '\x0c' then ['\\', 'f']
  else if c = '\n' then ['\\', 'n']
  else if c = '\r' then ['\\', 'r']
  else if c = '\t' then ['\\', 't']
  else if c.toNat < 0x20 then
    ['\\', 'u', '0', '0', hexChar (c.toNat / 16), hexChar c.toNat]
  else [c]

/-- A string literal. -/
def stringText (s : List Char) : List Char :=
  '"' :: s.flatMap stringChar ++ ['"']

namespace Value

mutual

/-- The text of a value. -/
def text : Value → List Char
  | null => ['n', 'u', 'l', 'l']
  | bool true => ['t', 'r', 'u', 'e']
  | bool false => ['f', 'a', 'l', 's', 'e']
  | number n => n.text
  | string s => stringText s.toList
  | array items => '[' :: itemTexts items ++ [']']
  | object members => '\x7b' :: memberTexts members ++ ['\x7d']

/-- The texts of the elements of a list, with commas between them. -/
def itemTexts : List Value → List Char
  | [] => []
  | [v] => v.text
  | v :: w :: rest => v.text ++ ',' :: itemTexts (w :: rest)

/-- The texts of the members of an object, with commas between them. -/
def memberTexts : List (String × Value) → List Char
  | [] => []
  | [(name, v)] => stringText name.toList ++ ':' :: v.text
  | (name, v) :: m :: rest =>
    stringText name.toList ++ ':' :: v.text ++ ',' :: memberTexts (m :: rest)

end

/-- The text of a value as a string. -/
def render (v : Value) : String := String.ofList v.text

end Value

end Relata.Json
