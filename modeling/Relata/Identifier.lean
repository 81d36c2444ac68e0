import Relata.Text.Uppercase

/-!
# Identifiers

Names of a model as identifiers of the generated module. A character that no identifier has becomes
an underscore, and an underscore before the whole escapes what is no identifier yet. Declarations
are named after a type by its stem, the identifier in Pascal case.

## Main definitions

* `isReservedWord` — the words that are no identifiers.
* `sanitize` — the identifier of a name.
* `pascalCase` — the stem of an identifier.
* `Scope`, `Scope.claim`, `Scope.assign` — the identifiers that names of one scope own.
-/

namespace Relata

/-- The words that have a meaning of their own in the generated language. -/
def reservedWords : List String :=
  ["arguments", "await", "break", "case", "catch", "class", "const", "continue", "debugger",
    "default", "delete", "do", "else", "enum", "eval", "export", "extends", "false", "finally",
    "for", "function", "if", "implements", "import", "in", "instanceof", "interface", "let", "new",
    "null", "package", "private", "protected", "public", "return", "static", "super", "switch",
    "this", "throw", "true", "try", "typeof", "undefined", "var", "void", "while", "with", "yield"]

/-- Whether a word cannot be an identifier. -/
def isReservedWord (word : String) : Bool := reservedWords.contains word

/-- A character of an identifier: an ASCII letter or digit, an underscore or a dollar sign. -/
def isIdentifierChar (c : Char) : Bool := c.isAlphanum || c = '_' || c = '$'

/-- The character that stands for `c` in an identifier. -/
def identifierChar (c : Char) : Char := if isIdentifierChar c then c else '_'

/-- Whether a text of identifier characters is no identifier. -/
def needsEscape (cs : List Char) : Bool :=
  match cs with
  | [] => true
  | c :: _ => c.isDigit || isReservedWord (String.ofList cs)

/-- The characters of the identifier of a name. -/
def sanitizeChars (name : List Char) : List Char :=
  let cs := name.map identifierChar
  if needsEscape cs then '_' :: cs else cs

/-- The identifier of a name. -/
def sanitize (name : String) : String := String.ofList (sanitizeChars name.toList)

/-! ### Stems -/

/-- Drops the underscores and capitalizes what follows one, and the start if `atStart`. -/
def joinSegments : Bool → List Char → List Char
  | _, [] => []
  | atStart, c :: rest =>
    if c = '_' then joinSegments true rest
    else if atStart then Text.uppercase c ++ joinSegments false rest
    else c :: joinSegments false rest

/-- The characters of the stem of an identifier: its underscores at the start, and the segments
between the other underscores, each with a capital. -/
def pascalCaseChars (cs : List Char) : List Char :=
  cs.takeWhile (· = '_') ++ joinSegments true (cs.dropWhile (· = '_'))

/-- The stem of an identifier. -/
def pascalCase (identifier : String) : String :=
  String.ofList (pascalCaseChars identifier.toList)

/-! ### Scopes -/

/-- Two names of one scope that need the same identifier. -/
structure Collision where
  scope : String
  first : String
  second : String
  identifier : String
  deriving DecidableEq, Repr, Inhabited

/-- The wording of a collision. -/
def Collision.message (c : Collision) : String :=
  "identifier collision in " ++ c.scope ++ ": '" ++ c.first ++ "' and '" ++ c.second ++
    "' both map to '" ++ c.identifier ++ "'"

/-- The identifiers given out so far, each with the name that owns it. -/
structure Scope where
  label : String
  owners : List (String × String)
  deriving DecidableEq, Repr, Inhabited

namespace Scope

/-- A scope in which nothing is owned. -/
def empty (label : String) : Scope := ⟨label, []⟩

/-- The name that owns an identifier. -/
def owner? (s : Scope) (identifier : String) : Option String := s.owners.lookup identifier

/-- Makes `name` the owner of an identifier that no other name owns. -/
def claim (s : Scope) (identifier name : String) : Except Collision Scope :=
  match s.owner? identifier with
  | none => .ok ⟨s.label, (identifier, name) :: s.owners⟩
  | some first =>
    if first = name then .ok s else .error ⟨s.label, first, name, identifier⟩

/-- Makes `name` the owner of its identifier. -/
def assign (s : Scope) (name : String) : Except Collision (String × Scope) :=
  (s.claim (sanitize name) name).map fun t => (sanitize name, t)

end Scope

end Relata
