/-!
# Shortest decimals

The decimal with the fewest digits that reads back as a given binary fraction. A positive number
`m · 2 ^ q` with a significand of at most 53 bits stands for every real that rounds to it; among
the decimals in that interval the one with the fewest digits is taken, and of those the nearest.

## Main definitions

* `Binary` — a positive binary fraction; `Binary.ofBits?` takes one from the bits of a double.
* `Decimal` — digits and a power of ten.
* `Binary.shortest` — the shortest decimal.
-/

namespace Relata

/-- The positive number `significand · 2 ^ exponent`. -/
structure Binary where
  significand : Nat
  exponent : Int
  deriving DecidableEq, Repr, Inhabited

/-- The number `digits · 10 ^ exponent`. -/
structure Decimal where
  digits : Nat
  exponent : Int
  deriving DecidableEq, Repr, Inhabited

/-- Takes up to `fuel` zeros off the end of the digits. -/
def Decimal.strip : Nat → Decimal → Decimal
  | 0, d => d
  | fuel + 1, d =>
    if d.digits % 10 = 0 && d.digits ≠ 0 then strip fuel ⟨d.digits / 10, d.exponent + 1⟩ else d

/-- A quotient of natural numbers. -/
structure Quotient where
  num : Nat
  den : Nat
  deriving DecidableEq, Repr, Inhabited

namespace Binary

/-- The magnitude of the finite double with the given bits; none for zero. -/
def ofBits? (bits : Nat) : Option Binary :=
  let fraction : Nat := bits % Nat.pow 2 52
  let scale : Nat := bits / Nat.pow 2 52 % Nat.pow 2 11
  if scale = 0 then
    if fraction = 0 then none else some ⟨fraction, -1074⟩
  else some ⟨Nat.pow 2 52 + fraction, (scale : Int) - 1075⟩

/-- `quarters · 2 ^ (exponent - 2)` divided by `10 ^ place`. -/
def scaled (x : Binary) (quarters : Nat) (place : Int) : Quotient :=
  let q := x.exponent - 2
  ⟨quarters * Nat.pow 2 q.toNat * Nat.pow 10 (-place).toNat,
    Nat.pow 2 (-q).toNat * Nat.pow 10 place.toNat⟩

/-- Below the number the neighbour is half as far when the significand is a power of two. -/
def lowerQuarters (x : Binary) : Nat :=
  if x.significand = Nat.pow 2 52 && x.exponent > -1074 then 1 else 2

/-- Whether `digits · 10 ^ place` rounds to the number: it lies between the midpoints to both
neighbours, which count exactly if the significand is even. -/
def admits (x : Binary) (digits : Nat) (place : Int) : Bool :=
  let low := x.scaled (4 * x.significand - x.lowerQuarters) place
  let high := x.scaled (4 * x.significand + 2) place
  if x.significand % 2 = 0 then low.num ≤ digits * low.den && digits * high.den ≤ high.num
  else low.num < digits * low.den && digits * high.den < high.num

/-- The neighbour of the number on the grid of multiples of `10 ^ place` that rounds to it; the
nearer one if both do, and the even one of two equally near ones. -/
def onGrid? (x : Binary) (place : Int) : Option Decimal :=
  let exact := x.scaled (4 * x.significand) place
  let down := exact.num / exact.den
  let rest := exact.num % exact.den
  let downFits := x.admits down place
  let upFits := x.admits (down + 1) place
  let nearerDown := 2 * rest < exact.den || (2 * rest = exact.den && down % 2 = 0)
  if downFits && (nearerDown || !upFits) then some ⟨down, place⟩
  else if upFits then some ⟨down + 1, place⟩
  else none

/-- The first place from `place` downwards whose power of ten is at most the number. -/
def placeBelow (x : Binary) : Nat → Int → Int
  | 0, place => place
  | fuel + 1, place =>
    let here := x.scaled (4 * x.significand) place
    if here.den ≤ here.num then place else placeBelow x fuel (place - 1)

/-- The power of ten of the first digit of the number. No double is below `10 ^ -400`. -/
def leadingPlace (x : Binary) : Int :=
  let whole := x.scaled (4 * x.significand) 0
  if whole.den ≤ whole.num then ((Nat.toDigits 10 (whole.num / whole.den)).length : Int) - 1
  else x.placeBelow 400 (-1)

/-- The first hit on the grids from `place` downwards. -/
def firstOnGrid (x : Binary) : Nat → Int → Decimal
  | 0, place => (x.onGrid? place).getD ⟨0, 0⟩
  | fuel + 1, place => (x.onGrid? place).getD (firstOnGrid x fuel (place - 1))

/-- The decimal of fewest digits that reads back as `x`, without zeros at its end. Seventeen digits
tell all doubles apart. -/
def shortest (x : Binary) : Decimal :=
  Decimal.strip 20 (x.firstOnGrid 17 x.leadingPlace)

end Binary

end Relata
