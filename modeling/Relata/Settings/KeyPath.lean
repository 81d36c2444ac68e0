import Relata.Settings.Loose

/-!
# Paths of settings

A source names a setting by a path: a name, with the names of members behind points and places in
lists in brackets. A text that is no path is a name as it stands.

## Main definitions

* `KeyPath`, `KeyPath.parse` — a path and how it is written.
* `Loose.assignAt` — puts a value into a table under a path.
-/

namespace Relata

/-- A step from a value into a part of it. -/
inductive PathStep
  | member (name : String)
  /-- A place in a list; a negative one counts from the end. -/
  | place (n : Int)
  deriving DecidableEq, Repr, Inhabited

/-- A path: a name and steps from the value that it names. -/
structure KeyPath where
  name : String
  steps : List PathStep
  deriving DecidableEq, Repr, Inhabited

namespace KeyPath

/-- Whether a character may stand in a name of a path. -/
def isNameChar (c : Char) : Bool := c.isAlphanum || c = ' ' || c = '_' || c = '-'

/-- The number in brackets. -/
def place? (cs : List Char) : Option Int :=
  let isSpace := fun c => c = ' ' || c = '\t'
  let trimmed := ((cs.dropWhile isSpace).reverse.dropWhile isSpace).reverse
  let ds := match trimmed with
    | '-' :: rest => rest
    | rest => rest
  if ds.isEmpty || !ds.all Char.isDigit then none
  else
    let n : Int := Yaml.Node.decimalDigits ds
    some (if trimmed.length = ds.length then n else -n)

/-- Reads steps. -/
def steps? : Nat → List Char → Option (List PathStep)
  | _, [] => some []
  | 0, _ => none
  | fuel + 1, '.' :: rest =>
    let name := rest.takeWhile isNameChar
    if name.isEmpty then none
    else (steps? fuel (rest.drop name.length)).map (.member (String.ofList name) :: ·)
  | fuel + 1, '[' :: rest =>
    let number := rest.takeWhile (· ≠ ']')
    match place? number, rest.drop number.length with
    | some n, _ :: rest => (steps? fuel rest).map (.place n :: ·)
    | _, _ => none
  | _, _ => none

/-- Reads a path. -/
def parse (text : String) : KeyPath :=
  let cs := text.toList
  let name := cs.takeWhile isNameChar
  match name, steps? (cs.length + 1) (cs.drop name.length) with
  | _ :: _, some steps => ⟨String.ofList name, steps⟩
  | _, _ => ⟨text, []⟩

end KeyPath

namespace Loose

/-- The items of a list; nothing else has any. -/
def items : Loose → List Loose
  | list _ items => items
  | _ => []

/-- The place in a list of a length. -/
def placeOf (n : Int) (length : Nat) : Nat :=
  if 0 ≤ n then n.toNat else length - n.natAbs

/-- Puts a value at a place of a list, which is made long enough. -/
def putItem (items : List Loose) (n : Nat) (v : Loose) : List Loose :=
  (items ++ List.replicate (n + 1 - items.length) nothing).set n v

/-- Puts a value into a list. What is no list becomes one. -/
def putPlace (v : Loose) (n : Int) (w : Loose) : Loose :=
  let items := v.items
  let origin := match v with
    | list origin _ => origin
    | _ => none
  list origin (putItem items (placeOf n items.length) w)

/-- Puts a value into a value at the end of steps; what is on the way becomes a table or list. -/
def assignIn (v incoming : Loose) : List PathStep → Loose
  | [] => incoming
  | [.member name] => assign name incoming v
  | .member name :: rest =>
    let name := Text.lowered name
    v.put name (assignIn ((v.get? name).getD nothing) incoming rest)
  | .place n :: rest =>
    let inner := v.items[placeOf n v.items.length]?.getD nothing
    v.putPlace n (assignIn inner incoming rest)

/-- Puts a value into a table under a path. -/
def assignAt (path : KeyPath) (incoming target : Loose) : Loose :=
  assignIn target incoming (.member path.name :: path.steps)

end Loose

end Relata
