import Relata.Yaml.Tag

/-!
# YAML tokens

A YAML text as the list of its tokens. Whether a scalar or a collection is a key shows only at the
colon behind it; until then its token is held back, since the tokens that open a mapping go before
it.

## Main definitions

* `TokenKind`, `Token` — a token and its place.
* `Scan` — how far a text has been read: the indentations, the possible keys, and the tokens that
  are held back.
* `Scan.advance` — reads on by one step.
* `Tokens`, `tokens` — the tokens of a text, and what is wrong behind the last one.
-/

namespace Relata.Yaml

/-- What a token is. -/
inductive TokenKind
  | textEnd
  | directive (found : Directive)
  | documentStart
  | documentEnd
  | blockSequenceStart
  | blockMappingStart
  | blockEnd
  | flowSequenceStart
  | flowSequenceEnd
  | flowMappingStart
  | flowMappingEnd
  | blockEntry
  | flowEntry
  | key
  | value
  | reference (name : String)
  | anchor (name : String)
  | tag (found : Tag)
  | scalar (plain : Bool) (text : String)
  deriving DecidableEq, Repr, Inhabited

/-- A token and its place. -/
structure Token where
  kind : TokenKind
  mark : Mark
  deriving DecidableEq, Repr, Inhabited

/-- A token that may turn out to be a key. -/
structure PossibleKey where
  possible : Bool
  /-- Whether it has to be one. -/
  required : Bool
  /-- The number of the token. -/
  number : Nat
  mark : Mark
  deriving DecidableEq, Repr, Inhabited

/-- An indentation. -/
structure Indentation where
  /-- The indentation outside of it. -/
  outer : Int
  /-- Whether a block token has started it. -/
  block : Bool
  deriving DecidableEq, Repr, Inhabited

/-- How far a text has been read. -/
structure Scan where
  source : Source
  /-- The tokens that have been read and not given out. -/
  held : List Token
  /-- How many tokens have been given out. -/
  given : Nat
  /-- The possible key on each level of flow collections, innermost first. -/
  keys : List PossibleKey
  /-- Whether a key may start here. -/
  keyAllowed : Bool
  indent : Int
  indentations : List Indentation
  flowLevel : Nat
  /-- Where a colon needs no blank behind it. -/
  adjacentAt : Nat
  /-- Whether a flow mapping with braces has started. -/
  flowMapping : Bool
  /-- Whether a flow mapping without braces is open. -/
  bareMapping : Bool
  deriving Inhabited

namespace Scan

/-- No key is possible. -/
def noKey : PossibleKey := ⟨false, false, 0, ⟨0, 0, 0⟩⟩

/-- The start of a text. -/
def ofText (text : String) : Scan :=
  ⟨.ofText text, [], 0, [noKey], true, -1, [], 0, 0, false, false⟩

/-- The next character. -/
def char (s : Scan) : Char := s.source.char

/-- The place. -/
def mark (s : Scan) : Mark := s.source.mark

/-- Whether a flow collection is open. -/
def inFlow (s : Scan) : Bool := 0 < s.flowLevel

/-- An error at this place. -/
def fail {α : Type} (s : Scan) (fault : YamlFault) : Except YamlError α := s.source.fail fault

/-- Goes on behind a place. -/
def moveTo (s : Scan) (source : Source) : Scan := { s with source := source }

/-- Adds a token. -/
def push (s : Scan) (kind : TokenKind) (mark : Mark) : Scan :=
  { s with held := s.held ++ [⟨kind, mark⟩] }

/-- Puts a token before the one with a number. -/
def insert (s : Scan) (number : Nat) (kind : TokenKind) (mark : Mark) : Scan :=
  let n := number - s.given
  { s with held := s.held.take n ++ ⟨kind, mark⟩ :: s.held.drop n }

/-- Says whether a key may start here. -/
def allowKey (s : Scan) (allowed : Bool) : Scan := { s with keyAllowed := allowed }

/-! ### Indentation -/

/-- Whether a block token started the innermost indentation. -/
def innermostIsBlock (s : Scan) : Bool :=
  match s.indentations with
  | [] => false
  | i :: _ => i.block

/-- Closes the innermost indentation if no block token started it. -/
def closeLoose (s : Scan) : Scan :=
  match s.indentations with
  | ⟨outer, false⟩ :: rest => { s with indent := outer, indentations := rest }
  | _ => s

/-- Closes all innermost indentations that no block token started. -/
def closeAllLoose (s : Scan) : Scan :=
  match s.indentations.dropWhile (!·.block), (s.indentations.takeWhile (!·.block)).getLast? with
  | rest, some last => { s with indent := last.outer, indentations := rest }
  | _, none => s

/-- Starts an indentation by one column that no block token starts. -/
def openLoose (s : Scan) : Scan :=
  if s.inFlow || !s.innermostIsBlock then s
  else { s with indent := s.indent + 1, indentations := ⟨s.indent, false⟩ :: s.indentations }

/-- Starts a block collection at a column if it is indented further. Its token goes before the one
with the given number, or behind all. -/
def openBlock (s : Scan) (column : Nat) (number : Option Nat) (kind : TokenKind) (mark : Mark) :
    Scan :=
  if s.inFlow then s
  else
    let s := if s.indent ≤ column then s.closeLoose else s
    if (column : Int) ≤ s.indent then s
    else
      let s := { s with indent := column, indentations := ⟨s.indent, true⟩ :: s.indentations }
      match number with
      | some n => s.insert n kind mark
      | none => s.push kind mark

/-- The ends of the blocks that are indented further than a column. -/
def closing (column : Int) (mark : Mark) : Int → List Indentation →
    Int × List Indentation × List Token
  | indent, [] => (indent, [], [])
  | indent, i :: rest =>
    if indent ≤ column then (indent, i :: rest, [])
    else
      let (indent, rest, ends) := closing column mark i.outer rest
      (indent, rest, if i.block then ⟨.blockEnd, mark⟩ :: ends else ends)

/-- Closes the blocks that are indented further than a column. -/
def closeBlocks (s : Scan) (column : Int) : Scan :=
  if s.inFlow then s
  else
    let (indent, indentations, ends) := closing column s.mark s.indent s.indentations
    { s with indent := indent, indentations := indentations, held := s.held ++ ends }

/-! ### Possible keys -/

/-- The possible key of the innermost level. -/
def key (s : Scan) : PossibleKey := s.keys.headD noKey

/-- Sets the possible key of the innermost level. -/
def setKey (s : Scan) (k : PossibleKey) : Scan := { s with keys := k :: s.keys.drop 1 }

/-- Notes that the next token may be a key. -/
def saveKey (s : Scan) : Scan :=
  if !s.keyAllowed then s
  else
    let required := !s.inFlow && s.indent = s.source.column && s.innermostIsBlock
    s.setKey ⟨true, required, s.given + s.held.length, s.mark⟩

/-- Gives up the possible key of the innermost level. -/
def removeKey (s : Scan) : Except YamlError Scan :=
  if s.key.possible && s.key.required then s.fail .keyExpected
  else .ok (s.setKey { s.key with possible := false })

/-- How long a key may be. -/
def maxKeySize : Nat := 1024

/-- Whether a key can no longer be one: outside of flow collections it stands in one line. -/
def isStale (s : Scan) (k : PossibleKey) : Bool :=
  k.possible && !s.inFlow &&
    (k.mark.line < s.mark.line || k.mark.index + maxKeySize < s.mark.index)

/-- Gives up the keys that can no longer be keys. -/
def dropStaleKeys (s : Scan) : Except YamlError Scan :=
  if s.keys.any (fun k => s.isStale k && k.required) then s.fail .colonExpected
  else
    let keys := s.keys.map fun k => if s.isStale k then { k with possible := false } else k
    .ok { s with keys := keys }

/-! ### Blanks -/

/-- Steps over blanks, line ends and comments. Behind a line end a key may start again. -/
def skipGaps : Nat → Scan → Except YamlError Scan
  | 0, s => .ok s
  | fuel + 1, s =>
    if isBreak s.char then
      let s := s.moveTo s.source.skipBreak
      skipGaps fuel (if s.inFlow then s else s.allowKey true)
    else if s.char = '#' then skipGaps fuel (s.moveTo s.source.skipLine)
    else if !isBlank s.char then .ok s
    else if s.char = '\t' && !s.indentations.isEmpty && s.source.fresh &&
        s.source.column < s.indent then do
      let s := s.moveTo (← s.source.skipBlanksAndComment)
      if isBreakOrEnd s.char then skipGaps fuel s else s.fail .tabIndentation
    else skipGaps fuel (s.moveTo (s.source.skipBlanks 1))

/-- Steps to the next token. -/
def skipToToken (s : Scan) : Except YamlError Scan := skipGaps (s.source.rest.length + 1) s

/-- Steps over spaces, line ends and comments. -/
def skipSpaces : Nat → Scan → Scan
  | 0, s => s
  | fuel + 1, s =>
    if isBreak s.char then
      let s := s.moveTo s.source.skipBreak
      skipSpaces fuel (if s.inFlow then s else s.allowKey true)
    else if s.char = '#' then skipSpaces fuel (s.moveTo s.source.skipLine)
    else if s.char = ' ' then skipSpaces fuel (s.moveTo (s.source.skipBlanks 1))
    else s

/-- Steps over a character and the blanks and the comment behind it. -/
def skipIndicator (s : Scan) : Except YamlError Scan := do
  return s.moveTo (← s.source.skip.skipBlanksAndComment)

/-! ### Documents -/

/-- Closes all blocks, since a document starts or ends here. -/
def endBlocks (s : Scan) : Except YamlError Scan := do
  return (← (s.closeBlocks (-1)).removeKey).allowKey false

/-- Reads the end of the text, which also ends a line. -/
def readEnd (s : Scan) : Except YamlError Scan := do
  let m := s.mark
  let s := if m.column = 0 then s
    else s.moveTo { s.source with mark := ⟨m.index, m.line + 1, 0⟩ }
  if s.keys.any (fun k => k.possible && k.required) then s.fail .keyExpected
  else
    let keys := s.keys.map fun k => { k with possible := false }
    let s ← { s with keys := keys }.endBlocks
    return s.push .textEnd s.mark

/-- Reads a directive. -/
def readDirective (s : Scan) : Except YamlError Scan := do
  let s ← s.endBlocks
  let (t, found) ← directive s.source
  return (s.moveTo t).push (.directive found) s.mark

/-- Reads the line that starts a document. -/
def readDocumentStart (s : Scan) : Except YamlError Scan := do
  let s ← s.endBlocks
  return (s.moveTo (s.source.skipN 3)).push .documentStart s.mark

/-- Reads the line that ends a document. -/
def readDocumentEnd (s : Scan) : Except YamlError Scan := do
  let s ← s.endBlocks
  let t := (s.moveTo (s.source.skipN 3)).push .documentEnd s.mark
  let t := t.moveTo (← t.source.skipBlanksAndComment)
  if isBreakOrEnd t.char then return t else t.fail .afterDocumentEnd

/-! ### Flow collections -/

/-- How deep flow collections may nest. -/
def maxFlowLevel : Nat := 255

/-- Reads an opening bracket. -/
def readFlowStart (kind : TokenKind) (s : Scan) : Except YamlError Scan := do
  let mark := s.mark
  let s := s.saveKey.openLoose
  let s := { s with keys := noKey :: s.keys }
  if s.flowLevel = maxFlowLevel then s.fail .tooDeep
  else
    let s := { s with flowLevel := s.flowLevel + 1, keyAllowed := true,
                      flowMapping := s.flowMapping || kind == TokenKind.flowMappingStart }
    return (← s.skipIndicator).push kind mark

/-- Closes a flow mapping without braces. -/
def closeBareMapping (s : Scan) : Scan :=
  if s.bareMapping then
    { s with bareMapping := false, flowMapping := false }.push .flowMappingEnd s.mark
  else s

/-- Leaves the innermost level of flow collections. -/
def leaveFlow (s : Scan) : Scan :=
  if s.inFlow then { s with flowLevel := s.flowLevel - 1, keys := s.keys.drop 1 } else s

/-- Reads a closing bracket. -/
def readFlowEnd (kind : TokenKind) (s : Scan) : Except YamlError Scan := do
  let mark := s.mark
  let s ← s.removeKey
  let s ← (s.leaveFlow.allowKey false).closeBareMapping.skipIndicator
  let s := if s.inFlow then { s with adjacentAt := s.mark.index } else s
  return s.push kind mark

/-- Reads a comma. -/
def readFlowEntry (s : Scan) : Except YamlError Scan := do
  let mark := s.mark
  let s ← s.removeKey
  return (← (s.allowKey true).closeBareMapping.skipIndicator).push .flowEntry mark

/-! ### Block collections -/

/-- Whether an anchor or tag stands before an entry at the start of its line. -/
def misplacedAnchor? (s : Scan) : Option Mark :=
  match s.held.getLast? with
  | some ⟨.anchor _, m⟩ | some ⟨.tag _, m⟩ =>
    if s.mark.column = 0 && m.column = 0 && -1 < s.indent then some m else none
  | _ => none

/-- Reads a dash. -/
def readBlockEntry (s : Scan) : Except YamlError Scan := do
  if s.inFlow then s.fail .entryInFlow
  if !s.keyAllowed then s.fail .entryNotAllowed
  if let some mark := s.misplacedAnchor? then throw ⟨.anchorIndentation, mark⟩
  let mark := s.mark
  let s := (s.moveTo s.source.skip).openBlock mark.column none .blockSequenceStart mark
  let gap ← s.source.skipGap true
  let s := s.moveTo gap.source
  if gap.tabs && s.char = '-' && isGap (s.source.look 1) then s.fail .entryBlank
  let s := s.moveTo (← s.source.skipGap false).source
  let s := if isBreak s.char || isFlow s.char then s.openLoose else s
  let s ← s.removeKey
  return (s.allowKey true).push .blockEntry s.mark

/-- Reads a question mark. -/
def readKey (s : Scan) : Except YamlError Scan := do
  let mark := s.mark
  if !s.inFlow && !s.keyAllowed then s.fail .keyNotAllowed
  let s :=
    if s.inFlow then { s with flowMapping := true }
    else s.openBlock mark.column none .blockMappingStart mark
  let s ← s.removeKey
  let s := (s.allowKey (!s.inFlow)).moveTo s.source.skip
  if !(s.char = ' ' || isBreak s.char) then s.fail .whitespaceExpected
  let s := skipSpaces (s.source.rest.length + 1) s
  if s.char = '\t' then s.fail .tabAfterKey
  return s.push .key mark

/-- Marks the possible key as one, at the colon behind it. -/
def confirmKey (s : Scan) (k : PossibleKey) (colon : Mark) : Except YamlError Scan := do
  let s := s.insert k.number .key k.mark
  if s.bareMapping && k.mark.line < colon.line then throw ⟨.valuePlacement, colon⟩
  let s := if s.bareMapping then s.insert k.number .flowMappingStart s.mark else s
  let s := (s.openBlock k.mark.column (some k.number) .blockMappingStart colon).openLoose
  return (s.setKey { k with possible := false }).allowKey false

/-- Starts a value without a key before it, or behind a key with a question mark. -/
def startValue (s : Scan) (colon : Mark) : Except YamlError Scan := do
  let s := if s.bareMapping then s.push .flowMappingStart s.mark else s
  if !s.inFlow && !s.keyAllowed then throw ⟨.valueNotAllowed, colon⟩
  let s := (s.openBlock colon.column none .blockMappingStart colon).openLoose
  return s.allowKey (!s.inFlow)

/-- Steps over a colon. Tabs alone must not separate it from a word. -/
def skipColon (s : Scan) : Except YamlError Scan := do
  let s := s.moveTo s.source.skip
  if s.char ≠ '\t' then return s
  let gap ← s.source.skipGap true
  let s := s.moveTo gap.source
  if !gap.spaces && isNameChar s.char then s.fail .valueBlank
  return s

/-- Reads a colon. -/
def readValue (s : Scan) : Except YamlError Scan := do
  let key := s.key
  let colon := s.mark
  let s ← { s with bareMapping := s.inFlow && !s.flowMapping }.skipColon
  let s ← if key.possible then s.confirmKey key colon else s.startValue colon
  return s.push .value colon

/-! ### Nodes -/

/-- Reads an anchor or alias. -/
def readAnchor (kind : String → TokenKind) (s : Scan) : Except YamlError Scan := do
  let mark := s.mark
  let (t, name) ← anchorName s.source
  return ((s.saveKey.allowKey false).moveTo t).push (kind name) mark

/-- Reads a tag. -/
def readTag (s : Scan) : Except YamlError Scan := do
  let mark := s.mark
  let (t, found) ← tag s.inFlow s.source
  return ((s.saveKey.allowKey false).moveTo t).push (.tag found) mark

/-- Reads a block scalar. -/
def readBlockScalar (s : Scan) : Except YamlError Scan := do
  let s := (s.saveKey.allowKey true).closeAllLoose
  let (t, mark, text) ← blockScalar s.indent s.source
  return (s.moveTo t).push (.scalar false text) mark

/-- Reads a quoted scalar. A colon may follow it without a blank. -/
def readQuoted (s : Scan) : Except YamlError Scan := do
  let mark := s.mark
  let s := s.saveKey.allowKey false
  let (t, text) ← quotedScalar s.inFlow s.indent s.source
  let s ← (s.moveTo t).skipToToken
  return { s with adjacentAt := s.mark.index }.push (.scalar false text) mark

/-- Reads a plain scalar. -/
def readPlain (s : Scan) : Except YamlError Scan := do
  let mark := s.mark
  let s := (s.saveKey.allowKey false).closeAllLoose
  let (t, text, ended) ← plainScalar s.inFlow (s.indent + 1) s.source
  return ((s.moveTo t).allowKey ended).push (.scalar true text) mark

/-! ### The next token -/

/-- Whether a colon stands before a value here. -/
def atValue (s : Scan) : Bool :=
  let next := s.source.look 1
  isGap next || (s.inFlow && (isFlow next || s.mark.index = s.adjacentAt))

/-- Reads the token that starts with the next character. -/
def readToken (s : Scan) : Except YamlError Scan :=
  let gap := isGap (s.source.look 1)
  match s.char with
  | '[' => s.readFlowStart .flowSequenceStart
  | '\x7b' => s.readFlowStart .flowMappingStart
  | ']' => s.readFlowEnd .flowSequenceEnd
  | '\x7d' => s.readFlowEnd .flowMappingEnd
  | ',' => s.readFlowEntry
  | '-' => if gap then s.readBlockEntry else s.readPlain
  | '?' => if gap then s.readKey else s.readPlain
  | ':' => if s.atValue then s.readValue else s.readPlain
  | '*' => s.readAnchor .reference
  | '&' => s.readAnchor .anchor
  | '!' => s.readTag
  | '|' | '>' => if s.inFlow then s.readPlain else s.readBlockScalar
  | '\x27' | '"' => s.readQuoted
  | '%' | '@' | '\x60' => s.fail (.unexpectedCharacter s.char)
  | _ => s.readPlain

/-- Reads the next token. -/
def readNext (s : Scan) : Except YamlError Scan := do
  let s ← s.skipToToken
  let s ← s.dropStaleKeys
  let s := s.closeBlocks s.source.column
  if isEnd s.char then s.readEnd
  else if s.mark.column = 0 && s.char = '%' then s.readDirective
  else if s.source.atMark '-' then s.readDocumentStart
  else if s.source.atMark '.' then s.readDocumentEnd
  else if s.source.column < s.indent then s.fail .indentation
  else s.readToken

/-- Whether the first token that is held back could still be a key. -/
def isHeldBack (s : Scan) : Bool :=
  s.keys.any fun k => k.possible && k.number = s.given

/-- Gives out the first token, or reads on. -/
def advance (s : Scan) : Except YamlError (Option Token × Scan) := do
  match s.held with
  | [] => return (none, ← s.readNext)
  | token :: rest =>
    let s ← s.dropStaleKeys
    if s.isHeldBack then return (none, ← s.readNext)
    else return (some token, { s with held := rest, given := s.given + 1 })

end Scan

/-! ### All tokens -/

/-- The tokens of a text, and what is wrong behind the last one. -/
structure Tokens where
  list : List Token
  fault : YamlError
  deriving DecidableEq, Repr, Inhabited

/-- Reads tokens up to the end of the text or the first fault. -/
def Tokens.read : Nat → Scan → List Token → Tokens
  | 0, s, list => ⟨list.reverse, ⟨.endOfText, s.mark⟩⟩
  | fuel + 1, s, list =>
    match s.advance with
    | .error e => ⟨list.reverse, e⟩
    | .ok (none, s) => Tokens.read fuel s list
    | .ok (some token, s) =>
      if token.kind = .textEnd then ⟨(token :: list).reverse, ⟨.endOfText, s.mark⟩⟩
      else Tokens.read fuel s (token :: list)

/-- How many steps a text of a length takes at most: every character starts and ends few blocks. -/
def Tokens.steps (length : Nat) : Nat := 16 * (length + 4)

/-- The tokens of a text. -/
def tokens (text : String) : Tokens :=
  Tokens.read (Tokens.steps text.length) (.ofText text) []

end Relata.Yaml
