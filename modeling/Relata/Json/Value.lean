import Relata.Decimal.Shortest

/-!
# JSON values

A JSON value in memory. Members of an object keep their order and have distinct names; an integer
is exact where it fits in 64 bits, every other number is a double, held by its bits.

## Main definitions

* `Number`, `Value` — numbers and values.
* `Value.object?`, `Value.get?`, `Value.text?` — a value seen as an object or as a text.
* `Value.insert` — an object's members with one more, which replaces a member of its name.
* `Number.text` — the shortest text of a number.
-/

namespace Relata.Json

/-- A JSON number. -/
inductive Number
  /-- An integer from `-2 ^ 63` to `2 ^ 64 - 1`. -/
  | integer (n : Int)
  /-- A finite double, by its bits. -/
  | float (bits : UInt64)
  deriving DecidableEq, Repr, Inhabited

/-- A JSON value. -/
inductive Value
  | null
  | bool (b : Bool)
  | number (n : Number)
  | string (s : String)
  | array (items : List Value)
  | object (members : List (String × Value))
  deriving Repr, Inhabited

namespace Value

/-- The members of an object. -/
def object? : Value → Option (List (String × Value))
  | object members => some members
  | _ => none

/-- The member of an object with the given name; none also if the value is no object. -/
def get? (v : Value) (name : String) : Option Value :=
  v.object?.bind (·.lookup name)

/-- The text of a string value. -/
def text? : Value → Option String
  | string s => some s
  | _ => none

/-- Adds a member. A member of that name keeps its place and takes the new value. -/
def insert (name : String) (v : Value) : List (String × Value) → List (String × Value)
  | [] => [(name, v)]
  | (other, w) :: rest =>
    if other = name then (name, v) :: rest else (other, w) :: insert name v rest

@[simp] theorem insert_nil (name : String) (v : Value) : insert name v [] = [(name, v)] := rfl

end Value

/-! ### Number texts -/

namespace Number

/-- The digits of a natural number in base ten. -/
def digits (n : Nat) : List Char := Nat.toDigits 10 n

/-- The text of a positive decimal. Between `1e-5` and `1e16` the point stands at its place and a
whole number keeps one zero behind it; other numbers have one digit before the point and a signed
exponent. -/
def decimalText (d : Decimal) : List Char :=
  let ds := digits d.digits
  let lead : Int := d.exponent + ds.length - 1
  if 0 ≤ lead && lead < 16 then
    let whole := lead.toNat + 1
    if ds.length ≤ whole then ds ++ List.replicate (whole - ds.length) '0' ++ ['.', '0']
    else ds.take whole ++ '.' :: ds.drop whole
  else if -5 ≤ lead && lead < 0 then
    ['0', '.'] ++ List.replicate ((-lead).toNat - 1) '0' ++ ds
  else
    let mantissa := match ds with
      | [d] => [d]
      | d :: rest => d :: '.' :: rest
      | [] => ['0']
    mantissa ++ ['e', if 0 ≤ lead then '+' else '-'] ++ digits lead.natAbs

/-- The shortest text that reads back as the number. -/
def text : Number → List Char
  | integer n => if n < 0 then '-' :: digits n.natAbs else digits n.natAbs
  | float bits =>
    let sign := if bits.toNat < Nat.pow 2 63 then [] else ['-']
    sign ++ match Binary.ofBits? bits.toNat with
      | none => ['0', '.', '0']
      | some x => decimalText x.shortest

end Number

end Relata.Json
