/-!
# Texts from bytes

Bytes that need not be UTF-8 as a text. Where no character can be completed, the bytes of the
broken one become one replacement character.

## Main definitions

* `decoded` — the text of bytes.
* `withoutMark` — the bytes behind a byte order mark.
-/

namespace Relata.Text

/-- A character whose last bytes have not been read. -/
structure OpenChar where
  /-- The bits that have been read. -/
  code : Nat
  /-- How many bytes are missing. -/
  missing : Nat
  /-- The range of the next byte. -/
  low : Nat
  high : Nat
  deriving DecidableEq, Repr, Inhabited

/-- Stands for a broken character. -/
def replacement : Char := '\ufffd'

/-- What the first byte of a character gives: the characters that are complete with it, and one
that is not. -/
def beginChar (b : Nat) : List Char × Option OpenChar :=
  if b < 0x80 then ([Char.ofNat b], none)
  else if 0xc2 ≤ b && b < 0xe0 then ([], some ⟨b - 0xc0, 1, 0x80, 0xbf⟩)
  else if b = 0xe0 then ([], some ⟨0, 2, 0xa0, 0xbf⟩)
  else if b = 0xed then ([], some ⟨0xd, 2, 0x80, 0x9f⟩)
  else if 0xe1 ≤ b && b < 0xf0 then ([], some ⟨b - 0xe0, 2, 0x80, 0xbf⟩)
  else if b = 0xf0 then ([], some ⟨0, 3, 0x90, 0xbf⟩)
  else if 0xf1 ≤ b && b < 0xf4 then ([], some ⟨b - 0xf0, 3, 0x80, 0xbf⟩)
  else if b = 0xf4 then ([], some ⟨4, 3, 0x80, 0x8f⟩)
  else ([replacement], none)

/-- What the next byte makes of an open character. A byte that does not fit starts another one. -/
def continueChar (c : OpenChar) (b : Nat) : List Char × Option OpenChar :=
  if c.low ≤ b && b ≤ c.high then
    let code := 64 * c.code + (b - 0x80)
    if c.missing = 1 then ([Char.ofNat code], none)
    else ([], some ⟨code, c.missing - 1, 0x80, 0xbf⟩)
  else
    let (cs, next) := beginChar b
    (replacement :: cs, next)

/-- The characters of bytes behind an open character. -/
def decodedFrom : Option OpenChar → List Nat → List Char
  | none, [] => []
  | some _, [] => [replacement]
  | pending, b :: rest =>
    let (cs, next) := (pending.map (continueChar · b)).getD (beginChar b)
    cs ++ decodedFrom next rest

/-- The text of bytes. -/
def decoded (bytes : List UInt8) : String :=
  String.ofList (decodedFrom none (bytes.map UInt8.toNat))

/-- The bytes behind a byte order mark, if there is one. -/
def withoutMark : List UInt8 → List UInt8
  | 0xef :: 0xbb :: 0xbf :: rest => rest
  | bytes => bytes

end Relata.Text
