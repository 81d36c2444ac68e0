import Relata.Json.Value
import Relata.Text.Lowercase
import Relata.Yaml.Node

/-!
# Loosely typed values

The values that sources give to settings. A value keeps its source, so that a message can name it.
It is read as a text, a truth value or a count with some goodwill: numbers stand for their text,
words such as `on` for truth values, and digits in a text for their number.

## Main definitions

* `Real` — a number that is no integer.
* `Loose` — a value; `Loose.assign` puts it into a table, where tables are merged and everything
  else is replaced.
* `TypeFault` — a value that is not of the wanted type.
* `Loose.asText`, `Loose.asBoolean`, `Loose.asCount` — the readings.
-/

namespace Relata

/-! ### Values -/

/-- A number that is no integer: the nearest double, or infinity. -/
structure Real where
  negative : Bool
  /-- The bits of the magnitude. -/
  bits : Nat
  deriving DecidableEq, Repr, Inhabited

namespace Real

/-- The magnitude of a finite number; none for zero. -/
def magnitude? (x : Real) : Option Binary :=
  if x.bits < infinityBits then Binary.ofBits? x.bits else none

/-- The shortest text that reads back as the number. -/
def text (x : Real) : String :=
  let digits := if infinityBits ≤ x.bits then "inf".toList else match x.magnitude? with
    | some m => m.shortest.positional
    | none => ['0']
  String.ofList ((if x.negative then ['-'] else []) ++ digits)

/-- The text with a point even if the number is whole. -/
def pointedText (x : Real) : String :=
  let magnitude := if infinityBits ≤ x.bits then "inf".toList else match x.magnitude? with
    | some m => Json.Number.decimalText m.shortest
    | none => "0.0".toList
  String.ofList ((if x.negative then ['-'] else []) ++ magnitude)

/-- The largest count. -/
def maxCount : Nat := Nat.pow 2 64 - 1

/-- The nearest count. -/
def count (x : Real) : Nat :=
  if x.negative then 0
  else if infinityBits ≤ x.bits then maxCount
  else min maxCount ((x.magnitude?.map Binary.nearestNat).getD 0)

end Real

/-- A value without parts. -/
inductive Atom
  | null
  | boolean (value : Bool)
  /-- An integer of 64 bits. -/
  | integer (value : Int)
  | real (value : Real)
  | text (value : String)
  deriving DecidableEq, Repr, Inhabited

/-- A value that a source gives to a setting. -/
inductive Loose
  | atom (origin : Option String) (value : Atom)
  | list (origin : Option String) (items : List Loose)
  | table (origin : Option String) (members : List (String × Loose))
  deriving Repr, Inhabited

/-- Settings by their names. -/
abbrev Table := List (String × Loose)

/-! ### Merging -/

namespace Table

/-- Sets a member. -/
def put (members : Table) (name : String) (v : Loose) : Table :=
  match members with
  | [] => [(name, v)]
  | (other, w) :: rest =>
    if other = name then (name, v) :: rest else (other, w) :: put rest name v

end Table

namespace Loose

/-- The source of a value. -/
def origin : Loose → Option String
  | atom origin _ | list origin _ | table origin _ => origin

/-- The members of a table; nothing else has any. -/
def members : Loose → Table
  | table _ members => members
  | _ => []

/-- Null, which no source gives. -/
def nothing : Loose := atom none .null

/-- The table that a member can be put into: the value itself if it is one. -/
def opened : Loose → Loose
  | table origin members => table origin members
  | _ => table none []

/-- A table with a member set. -/
def put (v : Loose) (name : String) (w : Loose) : Loose :=
  match v.opened with
  | table origin members => table origin (Table.put members name w)
  | _ => table none [(name, w)]

/-- The member of a table. -/
def get? (v : Loose) (name : String) : Option Loose := v.members.lookup name

mutual

/-- Puts a value into a table. The members of a table are put one by one into the member that is
there; everything else replaces it. Names are without case. -/
def assign (name : String) (incoming target : Loose) : Loose :=
  let name := Text.lowered name
  match incoming with
  | table _ incoming =>
    target.put name (assignAll incoming ((target.get? name).getD (table none [])))
  | other => target.put name other

/-- Puts members into a table, which is left alone if there are none. -/
def assignAll (incoming : Table) (target : Loose) : Loose :=
  match incoming with
  | [] => target
  | (name, v) :: rest => assignAll rest (assign name v target)

end

/-! ### Values from YAML -/

/-- The number that a text writes; none for a spelling without digits. -/
def realOf? (written : String) : Option Real :=
  (Yaml.Node.decimal? written.toList).map fun d => ⟨d.negative, d.magnitude.nearestBits⟩

end Loose

/-! ### Readings -/

/-- What a value is found to be. -/
inductive Found
  | unit
  | boolean (value : Bool)
  | integer (value : Int)
  | real (value : Real)
  | text (value : String)
  | sequence
  | map
  deriving DecidableEq, Repr, Inhabited

/-- What a value is. -/
def Atom.found : Atom → Found
  | null => .unit
  | boolean b => .boolean b
  | integer n => .integer n
  | real x => .real x
  | text s => .text s

/-- What a value is. -/
def Loose.found : Loose → Found
  | atom _ a => a.found
  | list _ _ => .sequence
  | table _ _ => .map

/-- The wording of what was found. -/
def Found.message : Found → String
  | unit => "unit value"
  | boolean b => "boolean `" ++ toString b ++ "`"
  | integer n => "64-bit integer `" ++ toString n ++ "`"
  | real x => "floating point `" ++ x.text ++ "`"
  | text s => "string " ++ Text.quoted s
  | sequence => "sequence"
  | map => "map"

/-- What is wanted in place of a value. -/
inductive Wanted
  | text
  | boolean
  | count
  /-- A count from a text. -/
  | integer
  | map
  deriving DecidableEq, Repr, Inhabited

/-- The wording of what is wanted. -/
def Wanted.message : Wanted → String
  | text => "a string"
  | boolean => "a boolean"
  | count => "an unsigned 64 bit or less integer"
  | integer => "an integer"
  | map => "a map"

/-- A value that is not of the wanted type. -/
structure TypeFault where
  found : Found
  wanted : Wanted
  origin : Option String
  deriving DecidableEq, Repr, Inhabited

namespace Loose

/-- The fault of a value. -/
def mistyped {α : Type} (v : Loose) (wanted : Wanted) : Except TypeFault α :=
  .error ⟨v.found, wanted, v.origin⟩

/-- A value as a text. -/
def asText (v : Loose) : Except TypeFault String :=
  match v with
  | atom _ (.text s) => .ok s
  | atom _ (.boolean b) => .ok (toString b)
  | atom _ (.integer n) => .ok (toString n)
  | atom _ (.real x) => .ok x.text
  | v => v.mistyped .text

/-- The truth value that a word stands for. -/
def truth? (word : String) : Option Bool :=
  if ["1", "true", "on", "yes"].contains word then some true
  else if ["0", "false", "off", "no"].contains word then some false
  else none

/-- A value as a truth value: a number is true if it is not zero. -/
def asBoolean (v : Loose) : Except TypeFault Bool :=
  match v with
  | atom _ (.boolean b) => .ok b
  | atom _ (.integer n) => .ok (n ≠ 0)
  | atom _ (.real x) => .ok (x.bits ≠ 0)
  | atom origin (.text s) =>
    let word := Text.lowered s
    match truth? word with
    | some b => .ok b
    | none => .error ⟨.text word, .boolean, origin⟩
  | v => v.mistyped .boolean

/-- The count that digits write. -/
def count? (s : String) : Option Nat :=
  let ds := match s.toList with
    | '+' :: rest => rest
    | cs => cs
  if ds.isEmpty || !ds.all Char.isDigit then none
  else
    let n := Yaml.Node.decimalDigits ds
    if n ≤ Real.maxCount then some n else none

/-- The count that a word or digits stand for. -/
def wordCount? (s : String) : Option Nat :=
  let word := Text.lowered s
  if ["true", "on", "yes"].contains word then some 1
  else if ["false", "off", "no"].contains word then some 0
  else count? s

/-- A value as a count. -/
def asCount (v : Loose) : Except TypeFault Nat :=
  match v with
  | atom _ (.integer n) => if n < 0 then v.mistyped .count else .ok n.toNat
  | atom _ (.boolean b) => .ok b.toNat
  | atom _ (.real x) => .ok x.count
  | atom _ (.text s) => match wordCount? s with
    | some n => .ok n
    | none => v.mistyped .integer
  | v => v.mistyped .count

end Loose

end Relata
