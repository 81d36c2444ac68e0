import Relata.Json.Fault
import Relata.Text.Hexadecimal

/-!
# JSON literals

The tokens of a document that stand for a value by themselves: words, numbers and strings.

A reader that wants a value and a reader that passes over it stop at the same broken tokens, though
not always with the same complaint (`Broken`). Beyond that a token can be well formed and still
have no value: a number out of range, or half of a surrogate pair in a string. Only the reader that
wants the value notices.

## Main definitions

* `Cursor` — the rest of a text and the byte offset it starts at.
* `scanWord`, `scanNumber`, `scanString` — the tokens.
* `NumberLiteral.value`, `StringLiteral.value` — what they stand for.
-/

namespace Relata.Json

/-- A place in a text with what is behind it. -/
structure Cursor where
  offset : Nat
  rest : List Char
  deriving DecidableEq, Repr, Inhabited

/-- The cursor at the next token. -/
def Cursor.skipGap (c : Cursor) : Cursor :=
  ⟨c.offset + Place.gap c.rest, c.rest.dropWhile isGap⟩

/-- Why reading cannot go on: the complaint of a reader that wants the value and the complaint of
one that passes over it. -/
structure Broken where
  use : Failure
  skip : Failure
  deriving DecidableEq, Repr, Inhabited

/-- Both readers complain alike. -/
def Broken.both (offset : Nat) (fault : Fault) : Broken :=
  ⟨.placed offset fault, .placed offset fault⟩

/-- Both readers complain at one place, each in its way. -/
def Broken.differ (offset : Nat) (use skip : Fault) : Broken :=
  ⟨.placed offset use, .placed offset skip⟩

/-- Reads the letters of a word. -/
def scanWord : List Char → Cursor → Except Broken Cursor
  | [], c => .ok c
  | _ :: _, ⟨n, []⟩ => .error (.both n .eofInValue)
  | w :: word, ⟨n, c :: rest⟩ =>
    if c = w then scanWord word ⟨n + 1, rest⟩ else .error (.both (n + 1) .expectedWord)

/-! ### Numbers -/

/-- The parts of a number literal. -/
structure NumberLiteral where
  negative : Bool
  whole : List Char
  fraction : List Char
  /-- The exponent's sign (true for negative) and digits, with the offset of its first digit. -/
  exponent : Option (Bool × List Char × Nat)
  /-- Whether the literal has a fraction or an exponent, and so is never read as an integer. -/
  plain : Bool
  /-- The offset behind the literal. -/
  stop : Nat
  deriving DecidableEq, Repr, Inhabited

/-- The digits at the start of a text, and what is behind them. -/
def spanDigits (c : Cursor) : List Char × Cursor :=
  let ds := c.rest.takeWhile Char.isDigit
  (ds, ⟨c.offset + ds.length, c.rest.dropWhile Char.isDigit⟩)

/-- Reads the exponent behind its letter. -/
def scanExponent (lit : NumberLiteral) (c : Cursor) : Except Broken (NumberLiteral × Cursor) :=
  let (negative, c) := match c.rest with
    | '+' :: rest => (false, ⟨c.offset + 1, rest⟩)
    | '-' :: rest => (true, ⟨c.offset + 1, rest⟩)
    | _ => (false, c)
  match spanDigits c with
  | ([], ⟨n, []⟩) => .error (.differ n .eofInValue .invalidNumber)
  | ([], ⟨n, _ :: _⟩) => .error (.both (n + 1) .invalidNumber)
  | (ds, d) =>
    .ok (⟨lit.negative, lit.whole, lit.fraction, some (negative, ds, c.offset), false, d.offset⟩, d)

/-- Reads the exponent, if there is one. -/
def scanExponent? (lit : NumberLiteral) (c : Cursor) : Except Broken (NumberLiteral × Cursor) :=
  match c.rest with
  | 'e' :: rest => scanExponent lit ⟨c.offset + 1, rest⟩
  | 'E' :: rest => scanExponent lit ⟨c.offset + 1, rest⟩
  | _ => .ok (lit, c)

/-- Reads what is behind the whole digits. -/
def scanFraction? (lit : NumberLiteral) (c : Cursor) : Except Broken (NumberLiteral × Cursor) :=
  match c.rest with
  | '.' :: rest =>
    match spanDigits ⟨c.offset + 1, rest⟩ with
    | ([], ⟨n, []⟩) => .error (.differ n .eofInValue .invalidNumber)
    | ([], ⟨n, _ :: _⟩) => .error (.both (n + 1) .invalidNumber)
    | (ds, d) => scanExponent? ⟨lit.negative, lit.whole, ds, none, false, d.offset⟩ d
  | _ => scanExponent? lit c

/-- Reads a number at its sign or first digit. -/
def scanNumber (c : Cursor) : Except Broken (NumberLiteral × Cursor) :=
  let (negative, c) := match c.rest with
    | '-' :: rest => (true, ⟨c.offset + 1, rest⟩)
    | _ => (false, c)
  match spanDigits c with
  | ([], ⟨n, []⟩) => .error (.differ n .eofInValue .invalidNumber)
  | ([], ⟨n, _ :: _⟩) => .error (.both (n + 1) .invalidNumber)
  | ('0' :: _ :: _, _) => .error (.both (c.offset + 2) .invalidNumber)
  | (ds, d) => scanFraction? ⟨negative, ds, [], none, true, d.offset⟩ d

/-- The number that a run of digits continues, as long as it fits in 64 bits, and the digits that
no longer fit. -/
def absorb : Nat → List Char → Nat × List Char
  | n, [] => (n, [])
  | n, d :: ds =>
    let next := 10 * n + (d.toNat - '0'.toNat)
    if next < Nat.pow 2 64 then absorb next ds else (n, d :: ds)

/-- `f` times a power of ten, in floating point: one multiplication or division by a power up to
`1e308`, after as many divisions by `1e308` as a smaller power needs. None if it is too large. -/
def scaleFloat : Nat → Float → Int → Option Float
  | 0, f, _ => some f
  | fuel + 1, f, e =>
    if e.natAbs ≤ 308 then
      if 0 ≤ e then
        let g := f * Float.ofScientific 1 false e.natAbs
        if g.isInf then none else some g
      else some (f / Float.ofScientific 1 false e.natAbs)
    else if f == 0 then some f
    else if 0 ≤ e then none
    else scaleFloat fuel (f / Float.ofScientific 1 false 308) (e + 308)

/-- The number a literal stands for. An integer keeps its value if it fits in 64 bits, signed for a
negative one; `-0` does not. Digits that no longer fit in a 64-bit significand only count as powers
of ten before the point, and not at all behind it. -/
def NumberLiteral.value (lit : NumberLiteral) : Except Failure Number :=
  let (n, excess) := absorb 0 lit.whole
  let signed (f : Float) : Number := .float (if lit.negative then -f else f).toBits
  if lit.plain && excess.isEmpty then
    if !lit.negative then .ok (.integer n)
    else if n = 0 || Nat.pow 2 63 < n then .ok (signed (Float.ofNat n))
    else .ok (.integer (-n))
  else
    let (m, lost) := absorb n lit.fraction
    let shift : Int := excess.length - (lit.fraction.length - lost.length : Nat)
    let scaled (e : Int) : Except Failure Number :=
      match scaleFloat 4 (Float.ofNat m) e with
      | some f => .ok (signed f)
      | none => .error (.placed lit.stop .numberOutOfRange)
    match lit.exponent with
    | none => scaled shift
    | some (negative, ds, start) =>
      let fits := ds.foldl
        (fun (e : Nat × Nat) d =>
          let next := 10 * e.1 + (d.toNat - '0'.toNat)
          if e.2 = 0 && next < Nat.pow 2 31 then (next, 0) else (e.1, e.2 + 1)) (0, 0)
      if fits.2 = 0 then scaled (if negative then shift - fits.1 else shift + fits.1)
      else if m ≠ 0 && !negative then
        .error (.placed (start + (ds.length - fits.2) + 1) .numberOutOfRange)
      else .ok (signed 0)

/-! ### Strings -/

/-- One element of a string literal. -/
inductive StringPart
  | char (c : Char)
  /-- A hexadecimal escape: its value, the offset behind it and the text behind it. -/
  | unit (n : Nat) (stop : Nat) (ahead : List Char)
  deriving DecidableEq, Repr, Inhabited

/-- The value of four hexadecimal digits. -/
def hexUnit? (a b c d : Char) : Option Nat := Text.hexNumber? [a, b, c, d]

/-- The character that a one-letter escape stands for. -/
def simpleEscape? : Char → Option Char
  | '"' => some '"'
  | '\\' => some '\\'
  | '/' => some '/'
  | 'b' => some '\x08'
  | 'f' => some '\x0c'
  | 'n' => some '\n'
  | 'r' => some '\r'
  | 't' => some '\t'
  | _ => none

/-- The elements of a string literal, and the cursor behind its closing quote or the reason why
there is none. -/
structure StringLiteral where
  parts : List StringPart
  next : Except Broken Cursor
  deriving Inhabited

namespace StringLiteral

/-- The literal with one more element before the others. -/
def push (p : StringPart) (lit : StringLiteral) : StringLiteral := ⟨p :: lit.parts, lit.next⟩

/-- A literal that is broken where it starts. -/
def stuck (b : Broken) : StringLiteral := ⟨[], .error b⟩

end StringLiteral

/-- Reads a string behind its opening quote. An escape of four digits takes four bytes, whatever
they are. -/
def scanString (n : Nat) : List Char → StringLiteral
  | [] => .stuck (.both n .eofInString)
  | '"' :: rest => ⟨[], .ok ⟨n + 1, rest⟩⟩
  | ['\\'] => .stuck (.both (n + 1) .eofInString)
  | '\\' :: 'u' :: a :: b :: c :: d :: rest =>
    match hexUnit? a b c d with
    | some v => (scanString (n + 6) rest).push (.unit v (n + 6) rest)
    | none => .stuck (.both (n + 6) .invalidEscape)
  | '\\' :: 'u' :: rest =>
    let left := Text.byteSize rest
    if left < 4 then .stuck (.both (n + 2 + left) .eofInString)
    else .stuck (.both (n + 6) .invalidEscape)
  | '\\' :: e :: rest =>
    match simpleEscape? e with
    | some c => (scanString (n + 2) rest).push (.char c)
    | none => .stuck (.both (n + 2) .invalidEscape)
  | c :: rest =>
    if c.toNat < 0x20 then
      .stuck ⟨.placed (n + 1) .controlCharacter, .placed n .controlCharacter⟩
    else (scanString (n + c.utf8Size) rest).push (.char c)

/-- Whether a code unit is the first half of a surrogate pair. -/
def isLeadingSurrogate (n : Nat) : Bool := 0xD800 ≤ n && n ≤ 0xDBFF

/-- Whether a code unit is the second half of a surrogate pair. -/
def isTrailingSurrogate (n : Nat) : Bool := 0xDC00 ≤ n && n ≤ 0xDFFF

/-- The characters that the elements of a literal stand for, up to where the literal breaks off.
The first half of a surrogate pair needs the second half right behind it. -/
def StringPart.values : List StringPart → Except Failure (List Char)
  | [] => .ok []
  | .char c :: rest => return c :: (← values rest)
  | [.unit n stop ahead] =>
    if isTrailingSurrogate n then .error (.placed stop .loneSurrogate)
    else if isLeadingSurrogate n then
      match ahead with
      | '\\' :: 'u' :: _ => .ok []
      | '\\' :: _ :: _ => .error (.placed (stop + 2) .unfinishedSurrogatePair)
      | ['\\'] | [] => .ok []
      | _ :: _ => .error (.placed (stop + 1) .unfinishedSurrogatePair)
    else .ok [Char.ofNat n]
  | .unit n stop ahead :: .char c :: rest =>
    if isTrailingSurrogate n then .error (.placed stop .loneSurrogate)
    else if isLeadingSurrogate n then
      match ahead with
      | '\\' :: _ => .error (.placed (stop + 2) .unfinishedSurrogatePair)
      | _ => .error (.placed (stop + 1) .unfinishedSurrogatePair)
    else return Char.ofNat n :: (← values (.char c :: rest))
  | .unit n stop _ :: .unit m last ahead :: rest =>
    if isTrailingSurrogate n then .error (.placed stop .loneSurrogate)
    else if isLeadingSurrogate n then
      if isTrailingSurrogate m then
        return Char.ofNat (0x10000 + 0x400 * (n - 0xD800) + (m - 0xDC00)) :: (← values rest)
      else .error (.placed last .loneSurrogate)
    else return Char.ofNat n :: (← values (.unit m last ahead :: rest))

/-- The text of a literal. A flaw before the place where the literal breaks off comes first. -/
def StringLiteral.value (lit : StringLiteral) : Except Failure String :=
  match StringPart.values lit.parts, lit.next with
  | .error f, _ => .error f
  | .ok _, .error b => .error b.use
  | .ok s, .ok _ => .ok (String.ofList s)

end Relata.Json
