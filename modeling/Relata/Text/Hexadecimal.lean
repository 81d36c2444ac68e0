/-!
# Hexadecimal digits

The formats that are read and written escape a character by its code in hexadecimal. They differ in
how many digits an escape has, and agree on what the digits spell.

## Main definitions

* `hexDigit?` — the value of a digit.
* `hexNumber?` — the number that digits spell.
-/

namespace Relata.Text

/-- The value of a hexadecimal digit. -/
def hexDigit? (c : Char) : Option Nat :=
  if '0' ≤ c && c ≤ '9' then some (c.toNat - '0'.toNat)
  else if 'a' ≤ c && c ≤ 'f' then some (c.toNat - 'a'.toNat + 10)
  else if 'A' ≤ c && c ≤ 'F' then some (c.toNat - 'A'.toNat + 10)
  else none

/-- The number that hexadecimal digits spell. -/
def hexNumber? (ds : List Char) : Option Nat :=
  ds.foldlM (fun n d => (hexDigit? d).map (16 * n + ·)) 0

end Relata.Text
