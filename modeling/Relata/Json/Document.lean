import Relata.Json.Literal

/-!
# JSON documents

A text read once into a tree that keeps the places of its parts. Reading does not stop at the first
fault: what a reader of the tree complains about depends on which parts it wants, so a part that
has no value is kept with the complaint of a reader that wants it and, where the text breaks off,
the complaint of a reader that passes over it.

## Main definitions

* `Node` — a part of a document; `Ending` — how a list or an object ends.
* `Document`, `Document.read` — a text as a tree.
* `Node.value` — a part as a value in memory; `Node.skip` — what passing over it complains about.
* `Document.value` — the value of a whole text.
* `Node.ofValue` — a value in memory seen as a part, which has no places.
-/

namespace Relata.Json

/-- How a list or an object ends. -/
inductive Ending
  /-- With its bracket, and nothing more before the offset. -/
  | closed (stop : Nat)
  /-- Not at all. -/
  | broken (b : Broken)
  /-- It is a value in memory. -/
  | held
  deriving DecidableEq, Repr, Inhabited

/-- The name of an object's member and the offset behind it. -/
structure Key where
  name : Except Failure String
  stop : Nat
  deriving Inhabited

/-- A part of a document. Every part knows the offset where it starts, a complete one also the
offset behind it. -/
inductive Node
  | null (start stop : Nat)
  | bool (start stop : Nat) (b : Bool)
  | number (start stop : Nat) (n : Number)
  | string (start stop : Nat) (s : String)
  /-- A list; `deep` if it nests further than a reader follows. -/
  | array (start : Nat) (deep : Bool) (items : List Node) (ending : Ending)
  /-- An object, its members in the order of the text. -/
  | object (start : Nat) (deep : Bool) (members : List (Key × Node)) (ending : Ending)
  /-- A part without a value. -/
  | unusable (start : Nat) (use : Failure) (skip : Option Failure)
  deriving Inhabited

/-- How deep lists and objects nest at most. -/
def nestingLimit : Nat := 127

/-- A part that was read, and where reading goes on, if it does. -/
structure Read where
  node : Node
  next : Option Cursor
  deriving Inhabited

namespace Read

/-- The text breaks off in a part that starts at `start`. -/
def stuck (start : Nat) (b : Broken) : Read := ⟨.unusable start b.use (some b.skip), none⟩

/-- A word that stands for a value. -/
def word (start : Nat) (letters : List Char) (c : Cursor) (node : Nat → Node) : Read :=
  match scanWord letters c with
  | .ok next => ⟨node next.offset, some next⟩
  | .error b => stuck start b

/-- A number. -/
def number (c : Cursor) : Read :=
  match scanNumber c with
  | .error b => stuck c.offset b
  | .ok (lit, next) => match lit.value with
    | .ok n => ⟨.number c.offset next.offset n, some next⟩
    | .error f => ⟨.unusable c.offset f none, some next⟩

/-- A string that starts at `start`, read behind its quote. -/
def string (start : Nat) (rest : List Char) : Read :=
  let lit := scanString (start + 1) rest
  match lit.value, lit.next with
  | .ok s, .ok next => ⟨.string start next.offset s, some next⟩
  | .error f, .ok next => ⟨.unusable start f none, some next⟩
  | .ok _, .error b => stuck start b
  | .error f, .error b => ⟨.unusable start f (some b.skip), none⟩

end Read

/-- The parts of a list or object, how it ends, and where reading goes on. -/
structure Parts (α : Type) where
  parts : List α
  ending : Ending
  next : Option Cursor
  deriving Inhabited

namespace Parts

variable {α : Type}

/-- No parts, because the text breaks off. -/
def stuck (b : Broken) : Parts α := ⟨[], .broken b, none⟩

/-- One more part before the others. -/
def push (a : α) (p : Parts α) : Parts α := ⟨a :: p.parts, p.ending, p.next⟩

/-- A last part, in which the text breaks off. -/
def cut (a : α) (use : Failure) (skip : Option Failure) : Parts α :=
  ⟨[a], .broken ⟨use, skip.getD use⟩, none⟩

/-- A last part, before the closing bracket. -/
def close (a : α) (n : Nat) (rest : List Char) : Parts α :=
  ⟨[a], .closed (n + 1), some ⟨n + 1, rest⟩⟩

end Parts

/-- The complaint that a part in which reading stopped leaves behind. -/
def Node.breakage : Node → Broken
  | .unusable _ use skip => ⟨use, skip.getD use⟩
  | .array _ _ _ (.broken b) | .object _ _ _ (.broken b) => b
  | _ => .both 0 .expectedValue

/-- Reads the elements of a list, the first of them at the cursor, by means of `element`. -/
def readItems (element : Cursor → Read) (c : Cursor) : Parts Node :=
  let item := element c
  match item.next with
  | none => ⟨[item.node], .broken item.node.breakage, none⟩
  | some behind =>
    let d := behind.skipGap
    match d.rest with
    | [] => .push item.node (.stuck (.both d.offset .eofInList))
    | ']' :: rest => .close item.node d.offset rest
    | ',' :: rest =>
      let e := Cursor.skipGap ⟨d.offset + 1, rest⟩
      match e.rest with
      | [] => .push item.node (.stuck (.both e.offset .eofInValue))
      | ']' :: _ => .push item.node (.stuck (.differ (e.offset + 1) .trailingComma .expectedValue))
      | _ :: _ =>
        if e.rest.length < c.rest.length then (readItems element e).push item.node
        else .push item.node (.stuck (.both (e.offset + 1) .expectedValue))
    | _ :: _ => .push item.node (.stuck (.both (d.offset + 1) .expectedListCommaOrEnd))
  termination_by c.rest.length

/-- Reads the value of a member behind its name: a colon and the value. -/
def readMemberValue (element : Cursor → Read) (c : Cursor) : Read :=
  let d := c.skipGap
  match d.rest with
  | [] => .stuck d.offset (.both d.offset .eofInObject)
  | ':' :: rest => element (Cursor.skipGap ⟨d.offset + 1, rest⟩)
  | _ :: _ => .stuck d.offset (.both (d.offset + 1) .expectedColon)

/-- Reads the members of an object, at the opening quote of the first name. -/
def readMembers (element : Cursor → Read) (c : Cursor) : Parts (Key × Node) :=
  let lit := scanString (c.offset + 1) (c.rest.drop 1)
  match lit.next with
  | .error b => .stuck ⟨match lit.value with | .error f => f | .ok _ => b.use, b.skip⟩
  | .ok behindName =>
    let key : Key := ⟨lit.value, behindName.offset⟩
    let item := readMemberValue element behindName
    match item.next with
    | none => ⟨[(key, item.node)], .broken item.node.breakage, none⟩
    | some behind =>
      let d := behind.skipGap
      match d.rest with
      | [] => .push (key, item.node) (.stuck (.both d.offset .eofInObject))
      | '\x7d' :: rest => .close (key, item.node) d.offset rest
      | ',' :: rest =>
        let e := Cursor.skipGap ⟨d.offset + 1, rest⟩
        match e.rest with
        | [] => .push (key, item.node) (.stuck (.differ e.offset .eofInValue .eofInObject))
        | '"' :: _ =>
          if e.rest.length < c.rest.length then (readMembers element e).push (key, item.node)
          else .push (key, item.node) (.stuck (.both (e.offset + 1) .keyMustBeString))
        | '\x7d' :: _ =>
          .push (key, item.node) (.stuck (.differ (e.offset + 1) .trailingComma .keyMustBeString))
        | _ :: _ => .push (key, item.node) (.stuck (.both (e.offset + 1) .keyMustBeString))
      | _ :: _ => .push (key, item.node) (.stuck (.both (d.offset + 1) .expectedObjectCommaOrEnd))
  termination_by c.rest.length

/-- Reads the value at a token. `outer` brackets are open, and the text has room for at most
`fuel` more. -/
def readNode : Nat → Nat → Cursor → Read
  | 0, _, c => .stuck c.offset (.both (c.offset + 1) .expectedValue)
  | fuel + 1, outer, c =>
    match c.rest with
    | [] => .stuck c.offset (.both c.offset .eofInValue)
    | 'n' :: rest => .word c.offset ['u', 'l', 'l'] ⟨c.offset + 1, rest⟩ (.null c.offset)
    | 't' :: rest =>
      .word c.offset ['r', 'u', 'e'] ⟨c.offset + 1, rest⟩ (.bool c.offset · true)
    | 'f' :: rest =>
      .word c.offset ['a', 'l', 's', 'e'] ⟨c.offset + 1, rest⟩ (.bool c.offset · false)
    | '"' :: rest => .string c.offset rest
    | '[' :: rest =>
      let d := Cursor.skipGap ⟨c.offset + 1, rest⟩
      let deep := outer ≥ nestingLimit
      match d.rest with
      | [] => ⟨.array c.offset deep [] (.broken (.both d.offset .eofInList)), none⟩
      | ']' :: rest =>
        ⟨.array c.offset deep [] (.closed (d.offset + 1)), some ⟨d.offset + 1, rest⟩⟩
      | _ :: _ =>
        let p := readItems (readNode fuel (outer + 1)) d
        ⟨.array c.offset deep p.parts p.ending, p.next⟩
    | '\x7b' :: rest =>
      let d := Cursor.skipGap ⟨c.offset + 1, rest⟩
      let deep := outer ≥ nestingLimit
      match d.rest with
      | [] => ⟨.object c.offset deep [] (.broken (.both d.offset .eofInObject)), none⟩
      | '\x7d' :: rest =>
        ⟨.object c.offset deep [] (.closed (d.offset + 1)), some ⟨d.offset + 1, rest⟩⟩
      | '"' :: _ =>
        let p := readMembers (readNode fuel (outer + 1)) d
        ⟨.object c.offset deep p.parts p.ending, p.next⟩
      | _ :: _ =>
        ⟨.object c.offset deep [] (.broken (.both (d.offset + 1) .keyMustBeString)), none⟩
    | d :: _ =>
      if d = '-' || d.isDigit then .number c
      else .stuck c.offset (.both (c.offset + 1) .expectedValue)

/-- A text as a tree. -/
structure Document where
  text : List Char
  root : Node
  /-- The complaint about what stands behind the value. -/
  trailing : Option Failure
  deriving Inhabited

/-- Reads a text. Brackets nest no deeper than the text is long. -/
def Document.read (text : List Char) : Document :=
  let r := readNode (text.length + 1) 0 (Cursor.skipGap ⟨0, text⟩)
  let trailing := r.next.bind fun behind =>
    match behind.skipGap with
    | ⟨_, []⟩ => none
    | ⟨n, _ :: _⟩ => some (.placed (n + 1) .trailingCharacters)
  ⟨text, r.node, trailing⟩

/-! ### Parts as values -/

/-- What is wrong with the end of a list or object. -/
def Ending.broken? : Ending → Option Broken
  | .broken b => some b
  | _ => none

/-- A result that stands if the list or object it is read from is complete. -/
def Ending.guard {α : Type} (e : Ending) (a : α) : Except Failure α :=
  match e.broken? with
  | some b => .error b.use
  | none => .ok a

mutual

/-- The value of a part. Of members with one name the last counts, at the place of the first. -/
def Node.value : Node → Except Failure Value
  | .null .. => .ok .null
  | .bool _ _ b => .ok (.bool b)
  | .number _ _ n => .ok (.number n)
  | .string _ _ s => .ok (.string s)
  | .array start deep items ending =>
    if deep then .error (.placed (start + 1) .tooDeep)
    else do ending.guard (.array (← Node.values items))
  | .object start deep members ending =>
    if deep then .error (.placed (start + 1) .tooDeep)
    else do ending.guard (.object (← Node.memberValues [] members))
  | .unusable _ use _ => .error use

/-- The values of the elements of a list. -/
def Node.values : List Node → Except Failure (List Value)
  | [] => .ok []
  | n :: ns => do
    let v ← n.value
    return v :: (← Node.values ns)

/-- The members of an object, added to those before. -/
def Node.memberValues (before : List (String × Value)) :
    List (Key × Node) → Except Failure (List (String × Value))
  | [] => .ok before
  | (key, n) :: rest => do
    let name ← key.name
    let v ← n.value
    Node.memberValues (Value.insert name v before) rest

end

mutual

/-- What a reader that passes over a part complains about. -/
def Node.skip : Node → Option Failure
  | .array _ _ items ending => (Node.skipAll items).or (ending.broken?.map Broken.skip)
  | .object _ _ members ending => (Node.skipMembers members).or (ending.broken?.map Broken.skip)
  | .unusable _ _ skip => skip
  | _ => none

/-- The first complaint about the elements of a list. -/
def Node.skipAll : List Node → Option Failure
  | [] => none
  | n :: ns => n.skip.or (Node.skipAll ns)

/-- The first complaint about the members of an object. -/
def Node.skipMembers : List (Key × Node) → Option Failure
  | [] => none
  | (_, n) :: rest => n.skip.or (Node.skipMembers rest)

end

/-- A reader's result for a whole document: what stands behind the value comes last. -/
def Document.run {α : Type} (d : Document) (reader : Node → Except Failure α) :
    Except Failure α := do
  let a ← reader d.root
  match d.trailing with
  | none => return a
  | some f => throw f

/-- The value of a whole text. -/
def Document.value (d : Document) : Except Failure Value :=
  d.run Node.value

/-- The value of a text, or the wording of what is wrong with it. -/
def Value.ofText? (text : String) : Except String Value :=
  let d := Document.read text.toList
  d.value.mapError (Failure.message d.text)

/-! ### Values as parts -/

mutual

/-- A value in memory as a part. -/
def Node.ofValue : Value → Node
  | .null => .null 0 0
  | .bool b => .bool 0 0 b
  | .number n => .number 0 0 n
  | .string s => .string 0 0 s
  | .array items => .array 0 false (Node.ofValues items) .held
  | .object members => .object 0 false (Node.ofMembers members) .held

/-- The elements of a list in memory as parts. -/
def Node.ofValues : List Value → List Node
  | [] => []
  | v :: vs => Node.ofValue v :: Node.ofValues vs

/-- The members of an object in memory as parts. -/
def Node.ofMembers : List (String × Value) → List (Key × Node)
  | [] => []
  | (name, v) :: rest => (⟨.ok name, 0⟩, Node.ofValue v) :: Node.ofMembers rest

end

end Relata.Json
