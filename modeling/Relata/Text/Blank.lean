/-!
# White space

The characters with the Unicode property *White_Space*, and texts without them at their ends.

## Main definitions

* `isBlank` — the property.
* `trimStart`, `trimEnd`, `trim` — a text without its leading, trailing or outer white space.
* `trimmed` — the same for strings.

-/

namespace Relata.Text

/-- White space: the ASCII blanks, the next-line control and the separators of every width. -/
def isBlank (c : Char) : Bool :=
  (0x09 ≤ c.toNat && c.toNat ≤ 0x0D) || c.toNat == 0x20 || c.toNat == 0x85 || c.toNat == 0xA0 ||
  c.toNat == 0x1680 || (0x2000 ≤ c.toNat && c.toNat ≤ 0x200A) || c.toNat == 0x2028 ||
  c.toNat == 0x2029 || c.toNat == 0x202F || c.toNat == 0x205F || c.toNat == 0x3000

/-- The text from its first character that is not white space on. -/
def trimStart (s : List Char) : List Char :=
  s.dropWhile isBlank

/-- The text up to its last character that is not white space. -/
def trimEnd (s : List Char) : List Char :=
  (s.reverse.dropWhile isBlank).reverse

/-- The text between its outer white space. -/
def trim (s : List Char) : List Char :=
  trimEnd (trimStart s)

/-- A string without its outer white space. -/
def trimmed (s : String) : String :=
  String.ofList (trim s.toList)

end Relata.Text
