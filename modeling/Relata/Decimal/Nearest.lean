import Relata.Decimal.Shortest

/-!
# The nearest double

A decimal becomes the double that is nearest to it, and of two equally near ones that with the even
significand. A double becomes the nearest integer, and a decimal a text without an exponent.

## Main definitions

* `Quotient.nearestBits`, `Decimal.nearestBits` — the bits of the nearest double.
* `Binary.nearestNat` — the nearest natural number.
* `Decimal.positional` — the text.
-/

namespace Relata

/-! ### Doubles -/

/-- The quotient by a power of two. -/
def Quotient.shifted (x : Quotient) (q : Int) : Quotient :=
  ⟨x.num * Nat.pow 2 (-q).toNat, x.den * Nat.pow 2 q.toNat⟩

/-- The nearest natural number, and of two equally near ones the even one. -/
def Quotient.roundEven (x : Quotient) : Nat :=
  let down := x.num / x.den
  let rest := x.num % x.den
  if 2 * rest < x.den || (2 * rest = x.den && down % 2 = 0) then down else down + 1

/-- The least exponent of a double. -/
def minExponent : Int := -1074

/-- The bits of infinity, above those of all finite doubles. -/
def infinityBits : Nat := 2047 * Nat.pow 2 52

/-- The exponent at which the quotient has a significand of 53 bits, if a double can have it. -/
def Quotient.exponent (x : Quotient) : Int :=
  let q : Int := (x.num.log2 : Int) - x.den.log2 - 53
  let y := x.shifted q
  max minExponent (if Nat.pow 2 53 ≤ y.num / y.den then q + 1 else q)

/-- The bits of the double nearest to a quotient. A significand that is rounded up to 54 bits
carries over into the exponent. -/
def Quotient.nearestBits (x : Quotient) : Nat :=
  if x.num = 0 then 0
  else
    let q := x.exponent
    min infinityBits ((q - minExponent).toNat * Nat.pow 2 52 + (x.shifted q).roundEven)

/-- A decimal at or above this power of ten is no finite double. -/
def maxPlace : Int := 310

/-- A decimal below this power of ten is next to zero. -/
def minPlace : Int := -400

/-- The bits of the double nearest to a decimal. -/
def Decimal.nearestBits (d : Decimal) : Nat :=
  let place := d.exponent + (Nat.toDigits 10 d.digits).length
  if d.digits = 0 || place < minPlace then 0
  else if maxPlace < place then infinityBits
  else Quotient.nearestBits ⟨d.digits * Nat.pow 10 d.exponent.toNat, Nat.pow 10 (-d.exponent).toNat⟩

/-- The nearest natural number; a half is rounded up. -/
def Binary.nearestNat (x : Binary) : Nat :=
  (2 * x.significand * Nat.pow 2 x.exponent.toNat + Nat.pow 2 (-x.exponent).toNat) /
    (2 * Nat.pow 2 (-x.exponent).toNat)

/-! ### Texts -/

/-- The text of a decimal without an exponent, and without a point if it is whole. -/
def Decimal.positional (d : Decimal) : List Char :=
  let ds := Nat.toDigits 10 d.digits
  if 0 ≤ d.exponent then ds ++ List.replicate d.exponent.toNat '0'
  else
    let places := d.exponent.natAbs
    let padded := List.replicate (places + 1 - ds.length) '0' ++ ds
    let whole := padded.length - places
    padded.take whole ++ '.' :: padded.drop whole

end Relata
