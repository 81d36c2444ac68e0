import Relata.Text.Hexadecimal
import Relata.Yaml.Source

/-!
# YAML scalars

The texts of plain, quoted and block scalars. In plain and quoted scalars line ends are folded: a
single one becomes a blank, and of several the first is dropped. Block scalars keep line ends or
fold them in the same way.

## Main definitions

* `Folding` — a text with the blanks and line ends that have not been joined to it yet.
* `plainScalar`, `quotedScalar`, `blockScalar` — the scalars.
-/

namespace Relata.Yaml

/-- A text, in reverse, with what may have to be folded behind it. -/
structure Folding where
  text : List Char
  /-- The blanks since the last other character, in reverse. -/
  blanks : List Char
  /-- Whether a line has started since then. -/
  newLine : Bool
  /-- Whether it started behind a line end that counts. -/
  firstBreak : Bool
  /-- How many more lines have started. -/
  moreBreaks : Nat
  deriving DecidableEq, Repr, Inhabited

namespace Folding

/-- No text. -/
def empty : Folding := ⟨[], [], false, false, 0⟩

/-- The text with blanks and line ends joined to it. -/
def join (f : Folding) : Folding :=
  let gap :=
    if !f.newLine then f.blanks
    else if f.firstBreak && f.moreBreaks = 0 then [' ']
    else List.replicate f.moreBreaks '\n'
  ⟨gap ++ f.text, [], false, false, 0⟩

/-- Adds a character. -/
def push (f : Folding) (c : Char) : Folding := { f with text := c :: f.text }

/-- Adds a blank; at the start of a line it does not count. -/
def blank (f : Folding) (c : Char) : Folding :=
  if f.newLine then f else { f with blanks := c :: f.blanks }

/-- Adds a line end. -/
def lineEnd (f : Folding) : Folding :=
  if f.newLine then { f with moreBreaks := f.moreBreaks + 1 }
  else { f with blanks := [], newLine := true, firstBreak := true }

/-- The text as a string. -/
def string (f : Folding) : String := String.ofList f.text.reverse

end Folding

/-! ### Plain scalars -/

/-- Whether a plain scalar ends before the next character. -/
def endsPlain (inFlow : Bool) (s : Source) : Bool :=
  isGap s.char || (s.char = ':' && (isGap (s.look 1) || (inFlow && isFlow (s.look 1)))) ||
    (inFlow && isFlow s.char)

/-- Reads the characters of a plain scalar up to a gap or its end. -/
def plainWord (inFlow : Bool) : Nat → Source → Folding → Source × Folding
  | 0, s, f => (s, f)
  | fuel + 1, s, f =>
    if endsPlain inFlow s then (s, f) else plainWord inFlow fuel s.skip (f.join.push s.char)

/-- Reads blanks and line ends. A tab may stand left of `indent` only in a line without text. -/
def plainGap (start : Mark) (indent : Int) : Nat → Source → Folding →
    Except YamlError (Source × Folding)
  | 0, s, f => .ok (s, f)
  | fuel + 1, s, f =>
    if isBreak s.char then plainGap start indent fuel s.skipBreak f.lineEnd
    else if !isBlank s.char then .ok (s, f)
    else if f.newLine && s.column < indent && s.char = '\t' then do
      let s ← s.skipBlanksAndComment
      if isBreakOrEnd s.char then plainGap start indent fuel s f
      else throw ⟨.tabInPlain, start⟩
    else plainGap start indent fuel (s.skipBlanks 1) (f.blank s.char)

/-- Reads the lines of a plain scalar. In a block they are indented at least by `indent`. -/
def plainLines (start : Mark) (inFlow : Bool) (indent : Int) : Nat → Source → Folding →
    Except YamlError (Source × Folding)
  | 0, s, f => .ok (s, f)
  | fuel + 1, s, f =>
    if s.atDocumentMark || s.char = '#' then .ok (s, f)
    else if inFlow && s.char = '-' && isFlow (s.look 1) then s.fail .dashBeforeFlow
    else
      let (s, f) := plainWord inFlow (s.rest.length + 1) s f
      if !(isBlank s.char || isBreak s.char) then .ok (s, f)
      else do
        let (s, f) ← plainGap start indent (s.rest.length + 1) s f
        if !inFlow && s.column < indent then return (s, f)
        else plainLines start inFlow indent fuel s f

/-- Reads a plain scalar. Also says whether a line ends behind it. -/
def plainScalar (inFlow : Bool) (indent : Int) (s : Source) :
    Except YamlError (Source × String × Bool) := do
  if inFlow && s.column < indent then s.fail .flowIndentation
  else
    let (t, f) ← plainLines s.mark inFlow indent (s.rest.length + 1) s .empty
    return (t, f.string, f.newLine)

/-! ### Quoted scalars -/

/-- The character that a one-letter escape stands for. -/
def escapedChar? : Char → Option Char
  | '0' => some '\x00'
  | 'a' => some '\x07'
  | 'b' => some '\x08'
  | 't' | '\t' => some '\t'
  | 'n' => some '\n'
  | 'v' => some '\x0b'
  | 'f' => some '\x0c'
  | 'r' => some '\r'
  | 'e' => some '\x1b'
  | ' ' => some ' '
  | '"' => some '"'
  | '/' => some '/'
  | '\\' => some '\\'
  | 'N' => some '\u0085'
  | '_' => some '\u00a0'
  | 'L' => some '\u2028'
  | 'P' => some '\u2029'
  | _ => none

/-- How many digits a hexadecimal escape has. -/
def escapeLength? : Char → Option Nat
  | 'x' => some 2
  | 'u' => some 4
  | 'U' => some 8
  | _ => none

/-- Reads the escape at a backslash. -/
def escape (start : Mark) (s : Source) : Except YamlError (Char × Source) :=
  let c := s.look 1
  match escapedChar? c, escapeLength? c with
  | some e, _ => .ok (e, s.skipN 2)
  | none, none => .error ⟨.unknownEscape, start⟩
  | none, some n =>
    let s := s.skipN 2
    match Text.hexNumber? ((List.range n).map s.look) with
    | none => .error ⟨.hexDigitExpected, start⟩
    | some v =>
      if v.isValidChar then .ok (Char.ofNat v, s.skipN n) else .error ⟨.invalidCodePoint, start⟩

/-- Reads the characters of a quoted scalar up to a gap or the closing quote. -/
def quotedWord (start : Mark) (quote : Char) : Nat → Source → Folding →
    Except YamlError (Source × Folding)
  | 0, s, f => .ok (s, f)
  | fuel + 1, s, f =>
    if isGap s.char then .ok (s, f)
    else if s.char = quote then
      if quote = '\x27' && s.look 1 = quote then
        quotedWord start quote fuel (s.skipN 2) (f.push quote)
      else .ok (s, f)
    else if s.char = '\\' && quote = '"' then
      if isBreak (s.look 1) then .ok (s.skip.skipBreak, { f with newLine := true })
      else do
        let (c, s) ← escape start s
        quotedWord start quote fuel s (f.push c)
    else quotedWord start quote fuel s.skip (f.push s.char)

/-- Reads blanks and line ends. A tab must not indent a line to the left of `indent`. -/
def quotedGap (indent : Int) : Nat → Source → Folding → Except YamlError (Source × Folding)
  | 0, s, f => .ok (s, f)
  | fuel + 1, s, f =>
    if isBreak s.char then quotedGap indent fuel s.skipBreak f.lineEnd
    else if !isBlank s.char then .ok (s, f)
    else if f.newLine && s.char = '\t' && s.column < indent then s.fail .tabInQuotes
    else quotedGap indent fuel (s.skipBlanks 1) (f.blank s.char)

/-- Reads the lines of a quoted scalar, up to its closing quote. -/
def quotedLines (start : Mark) (quote : Char) (indent : Int) : Nat → Source → Folding →
    Except YamlError (Source × Folding)
  | 0, _, _ => .error ⟨.unclosedQuotes, start⟩
  | fuel + 1, s, f =>
    if s.atDocumentMark then .error ⟨.documentMarkInQuotes, start⟩
    else if isEnd s.char then .error ⟨.unclosedQuotes, start⟩
    else if s.column < indent then .error ⟨.quotedIndentation, start⟩
    else do
      let (s, f) ← quotedWord start quote (s.rest.length + 1) s f
      if s.char = quote then return (s, f)
      else
        let (s, f) ← quotedGap indent (s.rest.length + 1) s f
        quotedLines start quote indent fuel s f.join

/-- Whether a quoted scalar may stand before the next character. -/
def followsQuotes (start : Mark) (inFlow : Bool) (s : Source) : Bool :=
  isBreakOrEnd s.char ||
    (if inFlow then s.char = ',' || s.char = '\x7d' || s.char = ']' || s.char = ':'
      else s.char = ':' && start.line = s.mark.line)

/-- Reads a quoted scalar and the blanks behind it. -/
def quotedScalar (inFlow : Bool) (indent : Int) (s : Source) :
    Except YamlError (Source × String) := do
  let (t, f) ← quotedLines s.mark s.char indent (s.rest.length + 1) s.skip .empty
  let t ← t.skip.skipBlanksAndComment
  if followsQuotes s.mark inFlow t then return (t, f.string) else t.fail .afterQuotes

/-! ### Block scalars -/

/-- What a block scalar does with the line ends at its end. -/
inductive Chomping
  | strip
  | clip
  | keep
  deriving DecidableEq, Repr, Inhabited

/-- The chomping that a character asks for. -/
def chomping? (c : Char) : Option Chomping :=
  if c = '+' then some .keep else if c = '-' then some .strip else none

/-- The indentation that a digit asks for. -/
def indentation? (c : Char) : Option Nat :=
  if c.isDigit then some (c.toNat - '0'.toNat) else none

/-- What the first line of a block scalar says, and the text behind it. -/
structure BlockHeader where
  chomping : Chomping
  /-- The indentation that it asks for, if any. -/
  increment : Option Nat
  /-- Whether a line end follows. -/
  ended : Bool
  source : Source
  deriving DecidableEq, Repr, Inhabited

/-- Reads the first line of a block scalar behind its indicator: chomping and indentation in any
order. -/
def blockHeader (start : Mark) (s : Source) : Except YamlError BlockHeader := do
  let (chomping, increment, s) := match chomping? s.char, indentation? s.char with
    | some c, _ => match indentation? s.skip.char with
      | some n => (some c, some n, s.skipN 2)
      | none => (some c, none, s.skip)
    | none, some n => match chomping? s.skip.char with
      | some c => (some c, some n, s.skipN 2)
      | none => (none, some n, s.skip)
    | none, none => (none, none, s)
  if increment = some 0 then throw ⟨.zeroIndentation, start⟩
  let s ← s.skipBlanksAndComment
  if !isBreakOrEnd s.char then throw ⟨.blockHeader, start⟩
  let t := s.skipBreak
  if t.char = '\t' then throw ⟨.tabInBlock, start⟩
  return ⟨chomping.getD .clip, increment, isBreak s.char, t⟩

/-- Steps over spaces, up to the column `indent` if there is one, and over empty lines. Counts the
line ends, and gives the widest indentation. -/
def blockBreaks (indent : Option Nat) : Nat → Source → Nat → Nat → Source × Nat × Nat
  | 0, s, breaks, widest => (s, breaks, widest)
  | fuel + 1, s, breaks, widest =>
    let spaces := (s.rest.takeWhile (· = ' ')).length
    let s := s.skipBlanks (match indent with
      | some n => min spaces (n - s.mark.column)
      | none => spaces)
    let widest := max widest s.mark.column
    if isBreak s.char then blockBreaks indent fuel s.skipBreak (breaks + 1) widest
    else (s, breaks, widest)

/-- The lines of a block scalar so far. -/
structure BlockText where
  /-- The text, in reverse. -/
  text : List Char
  /-- Whether a line end behind the text has not been added yet. -/
  pendingBreak : Bool
  /-- How many line ends follow it. -/
  moreBreaks : Nat
  /-- Whether the last line started with a blank. -/
  afterBlank : Bool
  deriving DecidableEq, Repr, Inhabited

/-- Reads the lines of a block scalar that are indented by `indent`. -/
def blockLines (literal : Bool) (indent : Nat) : Nat → Source → BlockText → Source × BlockText
  | 0, s, b => (s, b)
  | fuel + 1, s, b =>
    if s.mark.column ≠ indent || isEnd s.char || (indent = 0 && s.atMark '.') then (s, b)
    else
      let startsBlank := isBlank s.char
      let joint :=
        if !b.pendingBreak then []
        else if !literal && !b.afterBlank && !startsBlank then
          (if b.moreBreaks = 0 then [' '] else [])
        else ['\n']
      let line := s.rest.takeWhile (!isBreakOrEnd ·)
      let text := line.reverse ++ List.replicate b.moreBreaks '\n' ++ joint ++ b.text
      let s := s.skipLine
      if isEnd s.char then (s, ⟨text, false, 0, startsBlank⟩)
      else
        let (s, breaks, _) := blockBreaks (some indent) (s.rest.length + 1) s.skipBreak 0 0
        blockLines literal indent fuel s ⟨text, true, breaks, startsBlank⟩

/-- The text of a block scalar without lines, which ends in `breaks` empty lines. -/
def emptyBlockText (header : BlockHeader) (sameLine : Bool) (breaks : Nat) : String :=
  let first := if header.ended then 1 else 0
  match header.chomping with
  | .strip => ""
  | .clip => if sameLine then "" else String.ofList (List.replicate first '\n')
  | .keep =>
    if sameLine then ""
    else String.ofList (List.replicate (if breaks = 0 then first else breaks) '\n')

/-- Reads a block scalar at its indicator, inside a block that is indented by `outer`. Also gives
the place of its text. -/
def blockScalar (outer : Int) (s : Source) : Except YamlError (Source × Mark × String) := do
  let literal := s.char = '|'
  let header ← blockHeader s.mark s.skip
  let asked := header.increment.map fun n => if 0 ≤ outer then outer.toNat + n else n
  let fuel := header.source.rest.length + 1
  let (t, breaks, widest) := blockBreaks asked fuel header.source 0 0
  let indent := asked.getD
    (let least := max widest (outer + 1).toNat
      if 0 < outer then max least 1 else least)
  if isEnd t.char then
    return (t, s.mark, emptyBlockText header (t.mark.line = s.mark.line) breaks)
  else if t.mark.column < indent && outer < t.column then t.fail .blockIndentation
  else
    let (u, b) := blockLines literal indent fuel t ⟨[], false, breaks, false⟩
    let last := if header.chomping = .strip then [] else
      (if isEnd u.char && max indent 1 ≤ u.mark.column then ['\n'] else []) ++
        (if b.pendingBreak then ['\n'] else [])
    let more := if header.chomping = .keep then List.replicate b.moreBreaks '\n' else []
    return (u, t.mark, String.ofList (more ++ last ++ b.text).reverse)

end Relata.Yaml
