import Relata.Decimal.Nearest
import Relata.Yaml.Tag

/-!
# YAML nodes

What a YAML document holds. A plain scalar is resolved by its text: a number, a truth value or null
if it is written like one, and a text otherwise.

## Main definitions

* `Node` — a node.
* `Node.shown` — a node as messages show it.
* `Node.ofPlain`, `Node.ofTagged` — the node of a plain scalar.
-/

namespace Relata.Yaml

/-- A node of a document. -/
inductive Node
  /-- A scalar that does not fit its tag, or an alias inside the node that it stands for. -/
  | invalid
  | null
  | boolean (value : Bool)
  /-- An integer of 64 bits. -/
  | integer (value : Int)
  /-- A number that is no such integer, as it is written. -/
  | real (written : String)
  | text (value : String)
  | sequence (items : List Node)
  | mapping (members : List (Node × Node))
  deriving Repr, Inhabited

namespace Node

/-! ### Shown nodes -/

mutual

/-- A node as messages show it. Nodes that are shown alike are equal. -/
def shown : Node → String
  | invalid => "BadValue"
  | null => "Null"
  | boolean b => "Boolean(" ++ toString b ++ ")"
  | integer n => "Integer(" ++ toString n ++ ")"
  | real s => "Real(" ++ Text.quoted s ++ ")"
  | text s => "String(" ++ Text.quoted s ++ ")"
  | sequence items => "Array([" ++ ", ".intercalate (shownItems items) ++ "])"
  | mapping members => "Hash(\x7b" ++ ", ".intercalate (shownMembers members) ++ "\x7d)"

/-- Nodes as messages show them. -/
def shownItems : List Node → List String
  | [] => []
  | n :: ns => shown n :: shownItems ns

/-- Members of a mapping as messages show them. -/
def shownMembers : List (Node × Node) → List String
  | [] => []
  | (k, v) :: rest => (shown k ++ ": " ++ shown v) :: shownMembers rest

end

/-! ### Numbers -/

/-- The value of digits in a base. -/
def digits? (base : Nat) (cs : List Char) : Option Nat :=
  if cs.isEmpty then none
  else cs.foldl (fun n c => do
    let d ← Text.hexDigit? c
    if d < base then return base * (← n) + d else none) (some 0)

/-- The integer of 64 bits with digits in a base and a sign before them, if there is one. -/
def integer? (base : Nat) (cs : List Char) : Option Int := do
  let n : Int ← match cs with
    | '-' :: rest => (digits? base rest).map fun n => -(n : Int)
    | '+' :: rest => (digits? base rest).map Int.ofNat
    | _ => (digits? base cs).map Int.ofNat
  if -(Nat.pow 2 63) ≤ n && n < Nat.pow 2 63 then some n else none

/-- A decimal with a sign. -/
structure SignedDecimal where
  negative : Bool
  magnitude : Decimal
  deriving DecidableEq, Repr, Inhabited

/-- Splits off a sign. -/
def unsigned : List Char → Bool × List Char
  | '-' :: rest => (true, rest)
  | '+' :: rest => (false, rest)
  | cs => (false, cs)

/-- The value of digits. -/
def decimalDigits (cs : List Char) : Nat :=
  cs.foldl (fun n c => 10 * n + (c.toNat - '0'.toNat)) 0

/-- The exponent that stands behind the digits of a number, if it is well written. -/
def exponent? : List Char → Option Int
  | [] => some 0
  | c :: rest =>
    let (negative, ds) := unsigned rest
    if (c = 'e' || c = 'E') && !ds.isEmpty && ds.all Char.isDigit then
      some (if negative then -(decimalDigits ds : Int) else decimalDigits ds)
    else none

/-- The decimal that a text writes: digits, a point somewhere among them, and an exponent. -/
def decimal? (written : List Char) : Option SignedDecimal := do
  let (negative, cs) := unsigned written
  let whole := cs.takeWhile Char.isDigit
  let rest := cs.drop whole.length
  let (fraction, rest) := match rest with
    | '.' :: more => (more.takeWhile Char.isDigit, more.dropWhile Char.isDigit)
    | _ => ([], rest)
  if whole.isEmpty && fraction.isEmpty then none
  else
    let e ← exponent? rest
    return ⟨negative, ⟨decimalDigits (whole ++ fraction), e - fraction.length⟩⟩

/-- The spellings of numbers without digits. -/
def wordNumbers : List String :=
  [".inf", ".Inf", ".INF", "+.inf", "+.Inf", "+.INF", "-.inf", "-.Inf", "-.INF", ".nan", ".NaN",
    ".NAN"]

/-- Whether a text writes a number. -/
def isReal (s : String) : Bool := wordNumbers.contains s || (decimal? s.toList).isSome

/-! ### Plain scalars -/

/-- The integer that a text writes: in base sixteen or eight behind its sign, or in base ten. -/
def plainInteger? (cs : List Char) : Option Int :=
  let spelled := match cs with
    | '0' :: 'x' :: ds => integer? 16 ds
    | '0' :: 'o' :: ds => integer? 8 ds
    | '+' :: ds => integer? 10 ds
    | _ => none
  spelled <|> integer? 10 cs

/-- The node of a plain scalar. -/
def ofPlain (s : String) : Node :=
  match plainInteger? s.toList with
  | some n => integer n
  | none =>
    if s = "" || s = "~" || s = "null" then null
    else if s = "true" then boolean true
    else if s = "false" then boolean false
    else if isReal s then real s
    else text s

/-- Where the tags of the standard types start. -/
def standardHandle : String := "tag:yaml.org,2002:"

/-- The node of a plain scalar with a tag. -/
def ofTagged (tag : Tag) (s : String) : Node :=
  if tag.handle ≠ standardHandle then text s
  else match tag.suffix with
    | "bool" => if s = "true" then boolean true else if s = "false" then boolean false else invalid
    | "int" => ((integer? 10 s.toList).map integer).getD invalid
    | "float" => if isReal s then real s else invalid
    | "null" => if s = "~" || s = "null" then null else invalid
    | _ => text s

end Node

end Relata.Yaml
