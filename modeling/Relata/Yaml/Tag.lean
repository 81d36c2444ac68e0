import Relata.Yaml.Scalar

/-!
# Anchors, tags and directives

What a YAML text says about nodes and documents beside their content.

## Main definitions

* `anchorName` — the name of an anchor or alias.
* `Tag`, `tag` — the tag of a node as it is written: a handle and a suffix.
* `Directive`, `directive` — a line before a document.
-/

namespace Relata.Yaml

/-! ### Anchors -/

/-- Whether a character may stand in the name of an anchor. -/
def isAnchorChar (c : Char) : Bool := !isGap c && !isFlow c && c ≠ '\ufeff'

/-- Reads the name behind an indicator of an anchor or alias. -/
def anchorName (s : Source) : Except YamlError (Source × String) :=
  let name := s.skip.rest.takeWhile isAnchorChar
  if name.isEmpty then s.fail .anchorName
  else .ok (s.skip.skipN name.length, String.ofList name)

/-! ### Addresses -/

/-- Whether a character may stand in an address. -/
def isUriChar (c : Char) : Bool :=
  c.isAlphanum || c = '-' || "#;/?:@&=+$,_.!~*\x27()[]%".toList.contains c

/-- Whether a character may stand in the suffix of a tag. -/
def isTagChar (c : Char) : Bool := isUriChar c && !isFlow c && c ≠ '!'

/-- How many bytes a UTF-8 sequence with the given first byte has. -/
def sequenceLength? (byte : Nat) : Option Nat :=
  if byte < 0x80 then some 1
  else if 0xc0 ≤ byte && byte < 0xe0 then some 2
  else if 0xe0 ≤ byte && byte < 0xf0 then some 3
  else if 0xf0 ≤ byte && byte < 0xf8 then some 4
  else none

/-- Reads the escaped bytes behind the first one of a character. They are joined as they are. -/
def uriBytes (start : Mark) : Nat → Nat → Source → Except YamlError (Source × Nat)
  | 0, code, s => .ok (s, code)
  | n + 1, code, s =>
    match Text.hexNumber? [s.look 1, s.look 2] with
    | none => .error ⟨.uriEscape, start⟩
    | some byte =>
      if 0x80 ≤ byte && byte < 0xc0 then uriBytes start n (code * 256 + byte) (s.skipN 3)
      else .error ⟨.uriNextByte, start⟩

/-- Reads an escaped character of an address. -/
def uriEscape (start : Mark) (s : Source) : Except YamlError (Source × Char) :=
  match Text.hexNumber? [s.look 1, s.look 2] with
  | none => .error ⟨.uriEscape, start⟩
  | some byte =>
    match sequenceLength? byte with
    | none => .error ⟨.uriFirstByte, start⟩
    | some n => do
      let (s, code) ← uriBytes start (n - 1) byte (s.skipN 3)
      if code.isValidChar then return (s, Char.ofNat code)
      else throw ⟨.uriCodePoint, start⟩

/-- Reads characters of a class and escapes. -/
def uriText (start : Mark) (p : Char → Bool) : Nat → Source → List Char →
    Except YamlError (Source × String)
  | 0, s, cs => .ok (s, String.ofList cs.reverse)
  | fuel + 1, s, cs =>
    if !p s.char then .ok (s, String.ofList cs.reverse)
    else if s.char = '%' then do
      let (s, c) ← uriEscape start s
      uriText start p fuel s (c :: cs)
    else uriText start p fuel s.skip (s.char :: cs)

/-- Reads an address of characters of a class. -/
def uri (start : Mark) (p : Char → Bool) (s : Source) : Except YamlError (Source × String) :=
  uriText start p (s.rest.length + 1) s []

/-! ### Tags -/

/-- The tag of a node. -/
structure Tag where
  handle : String
  suffix : String
  deriving DecidableEq, Repr, Inhabited

/-- Reads a handle: a name between exclamation marks, of which the last may be missing. -/
def tagHandle (s : Source) : Source × String :=
  let name := s.skip.rest.takeWhile isNameChar
  let t := s.skipN (name.length + 1)
  if t.char = '!' then (t.skip, String.ofList ('!' :: name ++ ['!']))
  else (t, String.ofList ('!' :: name))

/-- Whether a handle has both exclamation marks. -/
def isWholeHandle (handle : String) : Bool := 2 ≤ handle.length && handle.endsWith "!"

/-- Reads a tag that starts with a handle. -/
def shorthandTag (s : Source) : Except YamlError (Source × Tag) := do
  let (t, handle) := tagHandle s
  let (u, suffix) ← uri s.mark isTagChar t
  if isWholeHandle handle then
    if suffix = "" then throw ⟨.tagUri, s.mark⟩
    return (u, ⟨handle, suffix⟩)
  else
    let suffix := String.ofList (handle.toList.drop 1) ++ suffix
    return (u, if suffix = "" then ⟨"", "!"⟩ else ⟨"!", suffix⟩)

/-- Reads a tag in angle brackets. -/
def verbatimTag (s : Source) : Except YamlError (Source × Tag) := do
  let (t, address) ← uri s.mark isUriChar (s.skipN 2)
  if t.char = '>' then return (t.skip, ⟨"", address⟩) else throw ⟨.tagClose, s.mark⟩

/-- Reads a tag. -/
def tag (inFlow : Bool) (s : Source) : Except YamlError (Source × Tag) := do
  let (t, found) ← if s.look 1 = '<' then verbatimTag s else shorthandTag s
  if isGap t.char || (inFlow && isFlow t.char) then return (t, found)
  else throw ⟨.tagEnd, s.mark⟩

/-! ### Directives -/

/-- A line that says something about the next document. -/
inductive Directive
  | version
  /-- A shorthand for the start of tags. -/
  | tag (handle tagPrefix : String)
  deriving DecidableEq, Repr, Inhabited

/-- The most digits that a part of a version may have. -/
def maxVersionDigits : Nat := 9

/-- Steps over a number of a version. -/
def versionNumber (start : Mark) (s : Source) : Except YamlError Source :=
  let n := (s.rest.takeWhile Char.isDigit).length
  if n = 0 then .error ⟨.versionNumber, start⟩
  else if maxVersionDigits < n then .error ⟨.versionTooLong, start⟩
  else .ok (s.skipN n)

/-- Reads the version of a version directive. -/
def versionDirective (start : Mark) (s : Source) : Except YamlError (Source × Directive) := do
  let s ← versionNumber start (s.skipWhile isBlank)
  if s.char ≠ '.' then throw ⟨.versionDot, start⟩
  return (← versionNumber start s.skip, .version)

/-- Reads the handle of a tag directive. -/
def directiveHandle (start : Mark) (s : Source) : Except YamlError (Source × String) :=
  if s.char ≠ '!' then .error ⟨.tagHandle, start⟩
  else
    let (t, handle) := tagHandle s
    if handle = "!" || isWholeHandle handle then .ok (t, handle)
    else .error ⟨.tagDirectiveHandle, start⟩

/-- Reads the shorthand of a tag directive. -/
def tagDirective (start : Mark) (s : Source) : Except YamlError (Source × Directive) := do
  let (s, handle) ← directiveHandle start (s.skipWhile isBlank)
  let s := s.skipWhile isBlank
  if s.char ≠ '!' && !isTagChar s.char then throw ⟨.tagPrefix, start⟩
  let (s, address) ← uri start isUriChar s
  if isGap s.char then return (s, .tag handle address) else throw ⟨.tagDirectiveEnd, start⟩

/-- Reads a directive with its line. An unknown one says nothing about tags. -/
def directive (s : Source) : Except YamlError (Source × Directive) := do
  let name := s.skip.rest.takeWhile isNameChar
  let t := s.skip.skipN name.length
  if name.isEmpty then s.skip.fail .directiveName
  else if !isGap t.char then s.skip.fail .directiveNameEnd
  else
    let (u, found) ←
      if String.ofList name = "YAML" then versionDirective s.mark t
      else if String.ofList name = "TAG" then tagDirective s.mark t
      else pure (t.skipLine, Directive.tag "" "")
    let u ← u.skipBlanksAndComment
    if isBreakOrEnd u.char then return (u.skipBreak, found) else throw ⟨.directiveEnd, s.mark⟩

end Relata.Yaml
