import Relata.Yaml.Node
import Relata.Yaml.Token

/-!
# YAML documents

The nodes of a text, from its tokens. A node that is left out is null. The text is read to its end
before a repeated key counts, so that every other fault wins over it.

## Main definitions

* `Reading` — the tokens that are left, and what has been named so far.
* `node`, `blockMembers`, `flowItems`, … — the productions of the grammar; `fuel` bounds the number
  of productions inside of and behind each other, which no text exceeds.
* `documents` — the documents of a text.
-/

namespace Relata.Yaml

/-- The tokens that are left, and what has been named so far. -/
structure Reading where
  tokens : List Token
  /-- What is wrong behind the last token. -/
  fault : YamlError
  /-- The number of the node that an anchor stands for. -/
  anchors : List (String × Nat)
  /-- The nodes with an anchor that are complete. -/
  anchored : List (Nat × Node)
  nextAnchor : Nat
  /-- The start of tags that a handle stands for. -/
  handles : List (String × String)
  /-- The first repeated key. -/
  repeated : Option YamlError
  deriving Inhabited

/-- A step of reading. -/
abbrev Production := StateT Reading (Except YamlError)

/-- A node, and where it was complete. -/
structure Placed where
  node : Node
  mark : Mark
  deriving Inhabited

namespace Production

/-- Stops with a fault. -/
def fail {α : Type} (fault : YamlFault) (mark : Mark) : Production α := throw ⟨fault, mark⟩

/-- The next token. -/
def peek : Production Token := do
  match (← get).tokens with
  | token :: _ => return token
  | [] => throw (← get).fault

/-- Drops the next token. -/
def drop : Production Unit := modify fun r => { r with tokens := r.tokens.drop 1 }

/-- Takes the next token. -/
def next : Production Token := do
  let token ← peek
  drop
  return token

/-- Drops the next token if it is of the given kind. -/
def dropIf (kind : TokenKind) : Production Bool := do
  if (← peek).kind = kind then
    drop
    return true
  else return false

/-- Null, left out at a place. -/
def nothing (mark : Mark) : Production Placed := return ⟨.null, mark⟩

/-! ### Anchors and tags -/

/-- Gives an anchor to the node that starts here. -/
def nameAnchor (name : String) : Production Nat := do
  let r ← get
  set { r with anchors := (name, r.nextAnchor) :: r.anchors, nextAnchor := r.nextAnchor + 1 }
  return r.nextAnchor

/-- A tag with its handle replaced by what it stands for. -/
def resolveTag (mark : Mark) (tag : Tag) : Production Tag := do
  let handles := (← get).handles
  match handles.lookup tag.handle with
  | some start => return ⟨start, tag.suffix⟩
  | none =>
    if tag.handle = "!!" then return ⟨Node.standardHandle, tag.suffix⟩
    else if isWholeHandle tag.handle then fail .undeclaredHandle mark
    else return tag

/-- What stands before the content of a node. -/
structure Properties where
  anchor : Option Nat
  tag : Option Tag
  deriving Inhabited

/-- Reads an anchor and a tag in any order. -/
def properties : Production Properties := do
  let token ← peek
  match token.kind with
  | .anchor name =>
    drop
    let anchor ← nameAnchor name
    match (← peek).kind with
    | .tag tag =>
      drop
      return ⟨some anchor, some (← resolveTag token.mark tag)⟩
    | _ => return ⟨some anchor, none⟩
  | .tag tag =>
    drop
    let tag ← resolveTag token.mark tag
    match (← peek).kind with
    | .anchor name =>
      drop
      return ⟨some (← nameAnchor name), some tag⟩
    | _ => return ⟨none, some tag⟩
  | _ => return ⟨none, none⟩

/-- Notes a complete node under its anchor. -/
def complete (anchor : Option Nat) (placed : Placed) : Production Placed := do
  if let some n := anchor then
    modify fun r => { r with anchored := (n, placed.node) :: r.anchored }
  return placed

/-- The node that an alias stands for. -/
def aliased (name : String) (mark : Mark) : Production Placed := do
  let r ← get
  match r.anchors.lookup name with
  | none => fail .unknownAnchor mark
  | some n => return ⟨(r.anchored.lookup n).getD .invalid, mark⟩

/-! ### Members of mappings -/

/-- The members of a mapping so far, in reverse, and the key whose value is still to come. -/
structure Members where
  pairs : List (Node × Node)
  pending : Option Node
  deriving Inhabited

/-- No members. -/
def Members.empty : Members := ⟨[], none⟩

/-- The mapping of the members. -/
def Members.node (ms : Members) : Node := .mapping ms.pairs.reverse

/-- Adds a key or a value. An invalid node is no key, so that what follows it is taken for one. -/
def Members.add (ms : Members) (placed : Placed) : Production Members :=
  match ms.pending with
  | none => match placed.node with
    | .invalid => return ms
    | key => return ⟨ms.pairs, some key⟩
  | some key => do
    if ms.pairs.any (fun pair => pair.1.shown = key.shown) then
      let error : YamlError := ⟨.repeatedKey key.shown, placed.mark⟩
      modify fun r => { r with repeated := r.repeated <|> some error }
    return ⟨(key, placed.node) :: ms.pairs, none⟩

end Production

/-! ### The grammar -/

open Production

/-- Whether a token ends the place of a key or value in a block mapping. -/
def endsBlockMember : TokenKind → Bool
  | .key | .value | .blockEnd => true
  | _ => false

/-- Whether a token ends the place of an entry of a sequence without indentation. -/
def endsBareEntry : TokenKind → Bool
  | .blockEntry | .key | .value | .blockEnd => true
  | _ => false

mutual

/-- A node. Block collections may stand only in a block, and a sequence without indentation only in
a block mapping. -/
def node (block bareSequence : Bool) : Nat → Production Placed
  | 0 => do throw (← get).fault
  | fuel + 1 => do
    let token ← peek
    if let .reference name := token.kind then
      drop
      aliased name token.mark
    else
      let ⟨anchor, tag⟩ ← properties
      let token ← peek
      match token.kind, block, bareSequence with
      | .blockEntry, _, true => complete anchor (← bareItems [] fuel)
      | .scalar plain text, _, _ =>
        drop
        let found := if !plain then .text text else match tag with
          | some tag => Node.ofTagged tag text
          | none => Node.ofPlain text
        complete anchor ⟨found, token.mark⟩
      | .flowSequenceStart, _, _ =>
        drop
        complete anchor (← flowItems true [] fuel)
      | .flowMappingStart, _, _ =>
        drop
        complete anchor (← flowMembers true .empty fuel)
      | .blockSequenceStart, true, _ =>
        drop
        complete anchor (← blockItems [] fuel)
      | .blockMappingStart, true, _ =>
        drop
        complete anchor (← blockMembers .empty fuel)
      | _, _, _ =>
        if anchor.isNone && tag.isNone then fail .contentExpected token.mark
        else
          let found := match tag with
            | some tag => Node.ofTagged tag ""
            | none => .null
          complete anchor ⟨found, token.mark⟩

/-- The entries of a block sequence that are left. -/
def blockItems (items : List Node) : Nat → Production Placed
  | 0 => do throw (← get).fault
  | fuel + 1 => do
    let token ← next
    match token.kind with
    | .blockEnd => return ⟨.sequence items.reverse, token.mark⟩
    | .blockEntry =>
      let first ← peek
      let item ← match first.kind with
        | .blockEntry | .blockEnd => nothing first.mark
        | _ => node true false fuel
      blockItems (item.node :: items) fuel
    | _ => fail .blockEntryExpected token.mark

/-- The entries of a sequence without indentation that are left. -/
def bareItems (items : List Node) : Nat → Production Placed
  | 0 => do throw (← get).fault
  | fuel + 1 => do
    let token ← peek
    if token.kind ≠ .blockEntry then return ⟨.sequence items.reverse, token.mark⟩
    else
      drop
      let first ← peek
      let item ← if endsBareEntry first.kind then nothing first.mark else node true false fuel
      bareItems (item.node :: items) fuel

/-- A key or value of a block mapping, behind its indicator. -/
def blockMember : Nat → Production Placed
  | 0 => do throw (← get).fault
  | fuel + 1 => do
    let first ← peek
    if endsBlockMember first.kind then nothing first.mark else node true true fuel

/-- The members of a block mapping that are left. -/
def blockMembers (members : Members) : Nat → Production Placed
  | 0 => do throw (← get).fault
  | fuel + 1 => do
    let token ← peek
    match token.kind with
    | .blockEnd =>
      drop
      return ⟨members.node, token.mark⟩
    | .key | .value =>
      let key ← if ← dropIf .key then blockMember fuel else nothing token.mark
      let members ← members.add key
      let value ← if ← dropIf .value then blockMember fuel else nothing (← peek).mark
      blockMembers (← members.add value) fuel
    | _ => fail .blockKeyExpected token.mark

/-- The items of a flow sequence that are left. -/
def flowItems (first : Bool) (items : List Node) : Nat → Production Placed
  | 0 => do throw (← get).fault
  | fuel + 1 => do
    let token ← peek
    if token.kind = .flowSequenceEnd then
      drop
      return ⟨.sequence items.reverse, token.mark⟩
    else
      if !first && !(← dropIf .flowEntry) then fail .flowSequenceEnd token.mark
      let token ← peek
      match token.kind with
      | .flowSequenceEnd =>
        drop
        return ⟨.sequence items.reverse, token.mark⟩
      | .key =>
        drop
        let item ← flowPair fuel
        flowItems false (item.node :: items) fuel
      | _ =>
        let item ← node false false fuel
        flowItems false (item.node :: items) fuel

/-- A mapping of one member in a flow sequence, behind its question mark. -/
def flowPair : Nat → Production Placed
  | 0 => do throw (← get).fault
  | fuel + 1 => do
    let first ← peek
    let key ← match first.kind with
      | .value | .flowEntry | .flowSequenceEnd =>
        drop
        nothing first.mark
      | _ => node false false fuel
    let members ← Members.empty.add key
    let value ← if ← dropIf .value then do
        let first ← peek
        match first.kind with
        | .flowEntry | .flowSequenceEnd => nothing first.mark
        | _ => node false false fuel
      else nothing (← peek).mark
    return ⟨(← members.add value).node, (← peek).mark⟩

/-- The members of a flow mapping that are left. -/
def flowMembers (first : Bool) (members : Members) : Nat → Production Placed
  | 0 => do throw (← get).fault
  | fuel + 1 => do
    let start ← peek
    if start.kind = .flowMappingEnd then
      drop
      return ⟨members.node, start.mark⟩
    else
      if !first && !(← dropIf .flowEntry) then fail .flowMappingEnd start.mark
      let token ← peek
      match token.kind with
      | .flowMappingEnd =>
        drop
        return ⟨members.node, start.mark⟩
      | .key | .value =>
        let key ← if ← dropIf .key then flowKey fuel else nothing token.mark
        let members ← members.add key
        let value ← flowValue fuel
        flowMembers false (← members.add value) fuel
      | _ =>
        let members ← members.add (← node false false fuel)
        let value ← nothing (← peek).mark
        flowMembers false (← members.add value) fuel

/-- A key of a flow mapping, behind its question mark if it has one. -/
def flowKey : Nat → Production Placed
  | 0 => do throw (← get).fault
  | fuel + 1 => do
    let first ← peek
    match first.kind with
    | .value | .flowEntry | .flowMappingEnd => nothing first.mark
    | _ => node false false fuel

/-- A value of a flow mapping. -/
def flowValue : Nat → Production Placed
  | 0 => do throw (← get).fault
  | fuel + 1 => do
    let colon ← peek
    if !(← dropIf .value) then nothing colon.mark
    else match (← peek).kind with
      | .flowEntry | .flowMappingEnd => nothing colon.mark
      | _ => node false false fuel

end

/-! ### Documents -/

/-- Reads the directives before a document. Only the last one counts for handles. -/
def directives (hasVersion : Bool) : Nat → Production Unit
  | 0 => do throw (← get).fault
  | fuel + 1 => do
    let token ← peek
    match token.kind with
    | .directive .version =>
      if hasVersion then fail .repeatedVersion token.mark
      modify fun r => { r with handles := [] }
      drop
      directives true fuel
    | .directive (.tag handle start) =>
      modify fun r => { r with handles := [(handle, start)] }
      drop
      directives hasVersion fuel
    | _ => return ()

/-- Whether a token stands where a document has no content. -/
def endsDocument : TokenKind → Bool
  | .directive _ | .documentStart | .documentEnd | .textEnd => true
  | _ => false

/-- Reads the content of a document behind the line that starts it. -/
def explicitContent (fuel : Nat) : Production Placed := do
  directives false fuel
  let token ← next
  if token.kind ≠ .documentStart then fail .documentStartExpected token.mark
  else
    let first ← peek
    if endsDocument first.kind then nothing first.mark else node true false fuel

/-- Reads the documents that are left. The first one, and one behind a line that ends a document,
needs no line that starts it. -/
def documentList (bareAllowed : Bool) (found : List Node) : Nat → Production (List Node)
  | 0 => do throw (← get).fault
  | fuel + 1 => do
    let token ← peek
    match token.kind with
    | .documentEnd =>
      drop
      documentList bareAllowed found fuel
    | .textEnd => return found.reverse
    | kind =>
      modify fun r => { r with anchors := [] }
      let content ←
        if bareAllowed && !endsDocument kind then node true false fuel else explicitContent fuel
      modify fun r => { r with handles := [] }
      let ended ← dropIf .documentEnd
      let after ← peek
      match ended, after.kind with
      | false, .directive _ => fail .documentEndExpected after.mark
      | _, _ => documentList ended (content.node :: found) fuel

/-- The documents of a text. -/
def documents (text : String) : Except YamlError (List Node) := do
  let ts := tokens text
  let start : Reading := ⟨ts.list, ts.fault, [], [], 1, [], none⟩
  let (found, r) ← (documentList true [] (4 * ts.list.length + 4)).run start
  match r.repeated with
  | some error => throw error
  | none => return found

end Relata.Yaml
