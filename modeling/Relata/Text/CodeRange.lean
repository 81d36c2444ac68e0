/-!
# Ranges of code points

Properties of characters that a standard gives as a table are held here as lists of closed ranges
of code points in increasing order.

## Main definitions

* `CodeRange` — a closed range of code points.
* `CodeRange.contains` — membership of a character in a table.
-/

namespace Relata.Text

/-- A closed range of code points: the first and the last one in it. -/
abbrev CodeRange := Nat × Nat

namespace CodeRange

/-- Whether one of the ranges holds the code point of `c`. -/
def contains (table : List CodeRange) (c : Char) : Bool :=
  table.any fun r => r.1 ≤ c.toNat && c.toNat ≤ r.2

end CodeRange

end Relata.Text
