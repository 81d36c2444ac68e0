import Relata.Text.Lines

/-!
# Web addresses

An address as a request uses it: scheme, authority, path and query. Reading an address brings
it into its normal form. Only the schemes of servers have hosts in the full sense; with any other
scheme a host or path is kept nearly as it is written.

## Main definitions

* `Address`, `Address.ofText?` — an address and how it is read.
* `Address.text` — its normal form.
-/

namespace Relata

/-- A web address. -/
structure Address where
  scheme : String
  /-- The host, which only an address with slashes behind its scheme has. -/
  host : Option String
  portNumber : Option Nat
  path : String
  query : Option String
  fragment : Option String
  deriving DecidableEq, Repr, Inhabited

namespace Address

/-! ### Characters -/

/-- A hexadecimal digit. -/
def hexDigit (n : Nat) : Char :=
  Char.ofNat (if n < 10 then '0'.toNat + n else 'A'.toNat + (n - 10))

/-- The escaped form of a character: its bytes in hexadecimal. -/
def escaped (c : Char) : List Char :=
  (String.utf8EncodeChar c).flatMap fun b =>
    ['%', hexDigit (b.toNat / 16), hexDigit (b.toNat % 16)]

/-- A text with the characters of a class escaped, besides controls and what is not ASCII. -/
def escapedText (special : List Char) (cs : List Char) : List Char :=
  cs.flatMap fun c =>
    if c.toNat < 0x21 || 0x7e < c.toNat || special.contains c then escaped c else [c]

/-- The characters that are escaped in a path. -/
def pathSpecials : List Char := ['"', '#', '<', '>', '?', '^', '\x60', '\x7b', '\x7d']

/-- The characters that are escaped in a query. -/
def querySpecials : List Char := ['"', '#', '<', '>', '\x27']

/-- The characters that are escaped in a fragment. -/
def fragmentSpecials : List Char := ['"', '<', '>', '\x60']

/-! ### Parts -/

/-- The schemes of servers, with the numbers their servers usually have. -/
def usualNumbers : List (String × Nat) :=
  [("http", 80), ("https", 443), ("ws", 80), ("wss", 443), ("ftp", 21)]

/-- Whether a character separates names of a path. -/
def isSlash (c : Char) : Bool := c = '/' || c = '\\'

/-- The parts of a text between characters of a class. -/
def splitAt (p : Char → Bool) : List Char → List (List Char)
  | [] => [[]]
  | c :: cs =>
    if p c then [] :: splitAt p cs
    else match splitAt p cs with
      | [] => [[c]]
      | part :: parts => (c :: part) :: parts

/-- The names for the current directory. -/
def isHere (name : List Char) : Bool :=
  name = ['.'] || (String.ofList name).toLower = "%2e"

/-- The names for the parent directory. -/
def isParent (name : List Char) : Bool :=
  ["..", ".%2e", "%2e.", "%2e%2e"].contains (String.ofList name).toLower

/-- Follows the names of a path from a directory, given in reverse. -/
def follow : List (List Char) → List (List Char) → List (List Char)
  | done, [] => done.reverse
  | done, [last] =>
    if isParent last then ([] :: done.drop 1).reverse
    else if isHere last then ([] :: done).reverse
    else (last :: done).reverse
  | done, name :: rest =>
    if isParent name then follow (done.drop 1) rest
    else if isHere name then follow done rest
    else follow (name :: done) rest

/-- The normal form of a path behind its first slash. -/
def pathText (cs : List Char) : String :=
  String.ofList <| '/' ::
    ['/'].intercalate ((follow [] (splitAt isSlash cs)).map (escapedText pathSpecials))

/-- Whether a character may stand in a host. -/
def isHostChar (c : Char) : Bool := c.isAlphanum || "-._~!$&\x27()*+,;=[]:".toList.contains c

/-- The host of an authority and its number; a user before them is left out. -/
def authority? (scheme : String) (cs : List Char) : Option (String × Option Nat) := do
  let place := ((splitAt (· = '@') cs).getLast?).getD []
  let bracketed := (place.takeWhile (· ≠ ']')).length
  let hostLength :=
    if place.head? = some '[' then bracketed + 1 else (place.takeWhile (· ≠ ':')).length
  let host := place.take hostLength
  if host.isEmpty || !host.all isHostChar then failure
  let number ← match place.drop hostLength with
    | [] | [':'] => some none
    | ':' :: ds => if ds.all Char.isDigit then (String.ofList ds).toNat?.map some else none
    | _ => none
  if number.any (65535 < ·) then failure
  return ((String.ofList host).toLower, number.filter (usualNumbers.lookup scheme != some ·))

/-- Splits a text before the first of some characters. -/
def cut (stops : List Char) (cs : List Char) : List Char × List Char :=
  (cs.takeWhile (!stops.contains ·), cs.dropWhile (!stops.contains ·))

/-- A text without blanks around it and line ends in it. -/
def cleaned (cs : List Char) : List Char :=
  let isOuter := fun (c : Char) => c.toNat ≤ 0x20
  ((cs.dropWhile isOuter).reverse.dropWhile isOuter).reverse.filter fun c =>
    c ≠ '\t' && c ≠ '\n' && c ≠ '\r'

/-- The scheme of an address, and what stands behind its colon. -/
def scheme? (cs : List Char) : Option (String × List Char) :=
  let (name, rest) := cut [':'] cs
  let wellFormed := name.all fun c => c.isAlphanum || c = '+' || c = '-' || c = '.'
  if rest.isEmpty || !(name.head?.any Char.isAlpha) || !wellFormed then none
  else some ((String.ofList name).toLower, rest.drop 1)

/-- Whether a text starts with a scheme. -/
def hasScheme (text : String) : Bool := (scheme? (cleaned text.toList)).isSome

/-- A query or fragment behind its mark. -/
def marked? (special : List Char) (cs : List Char) : Option String :=
  if cs.isEmpty then none else some (String.ofList (escapedText special (cs.drop 1)))

/-- Reads an address behind the colon of its scheme. -/
def ofParts? (scheme : String) (cs : List Char) : Option Address := do
  let isServer := (usualNumbers.lookup scheme).isSome
  let (front, rest) := cut ['?', '#'] cs
  let (query, fragment) := cut ['#'] rest
  let query := marked? querySpecials query
  let fragment := marked? fragmentSpecials fragment
  if isServer then
    let (place, path) := cut ['/', '\\'] (front.dropWhile isSlash)
    let (host, number) ← authority? scheme place
    return ⟨scheme, some host, number, pathText (path.drop 1), query, fragment⟩
  else match front with
    | '/' :: '/' :: more =>
      let (place, path) := cut ['/'] more
      let path := if path.isEmpty then "" else pathText (path.drop 1)
      return ⟨scheme, some (String.ofList place), none, path, query, fragment⟩
    | _ => return ⟨scheme, none, none, String.ofList (escapedText [] front), query, fragment⟩

/-- Reads an address. -/
def ofText? (text : String) : Option Address := do
  let (scheme, rest) ← scheme? (cleaned text.toList)
  ofParts? scheme rest

/-! ### Texts -/

/-- What a request asks the server for: the path and the query. -/
def target (a : Address) : String := a.path ++ (a.query.map ("?" ++ ·)).getD ""

/-- The normal form of an address. -/
def text (a : Address) : String :=
  a.scheme ++ ":" ++ (a.host.map ("//" ++ ·)).getD "" ++
    (a.portNumber.map fun n => ":" ++ toString n).getD "" ++ a.target ++
    (a.fragment.map ("#" ++ ·)).getD ""

end Address

end Relata
