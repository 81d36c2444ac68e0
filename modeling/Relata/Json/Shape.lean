import Relata.Json.Document

/-!
# Documents of an expected shape

Readers that want a part of a document to have a certain shape. They take the parts in the order
of the text, and the first complaint wins.

A record is an object with known members. Members may come in any order, unknown ones are passed
over, and a known one must not come twice. In place of the object a list is taken that gives the
members in their declared order.

## Main definitions

* `Reader` — reads a part.
* `text`, `optional`, `list`, `pair`, `entries`, `tree` — readers of the basic shapes.
* `Shape`, `Shape.read` — records.
* `alternative` — a choice between named alternatives.
* `Document.decode` — a whole text read in a form.
-/

namespace Relata.Json

/-- Reads a part of a document as an `α`. -/
abbrev Reader (α : Type) := Node → Except Failure α

namespace Reader

variable {α β : Type}

/-- The complaint that `n` is not what was expected. Lists and objects are complained about where
they start, other values behind their end. -/
def mismatch (expected : String) : Node → Failure
  | .null _ stop => .placed stop (.invalidType .null expected)
  | .bool _ stop b => .placed stop (.invalidType (.bool b) expected)
  | .number _ stop n => .placed stop (.invalidType (.number n) expected)
  | .string _ stop s => .placed stop (.invalidType (.string s) expected)
  | .array start .. => .placed start (.invalidType .sequence expected)
  | .object start .. => .placed start (.invalidType .map expected)
  | .unusable _ use _ => use

/-- Reads a string. -/
def text : Reader String
  | .string _ _ s => .ok s
  | n => .error (mismatch "a string" n)

/-- Reads anything. -/
def tree : Reader Value := Node.value

/-- Reads `null` as nothing. -/
def optional (reader : Reader α) : Reader (Option α)
  | .null .. => .ok none
  | n => some <$> reader n

/-- The offset behind a part; for a part that has no end, its start. -/
def stop : Node → Nat
  | .null _ stop | .bool _ stop _ | .number _ stop _ | .string _ stop _ => stop
  | .array _ _ _ (.closed stop) | .object _ _ _ (.closed stop) => stop
  | .array start .. | .object start .. | .unusable start .. => start

/-- The offset of the first byte of a part. -/
def start : Node → Nat
  | .null start _ | .bool start .. | .number start .. | .string start .. => start
  | .array start .. | .object start .. | .unusable start .. => start

/-- Reads an element of a list or object with the given bracket; a complaint without a place is
settled behind the element. -/
def inside (closer : Char) (reader : Reader α) : Reader α := fun n =>
  (reader n).mapError (.settle (.resting (stop n) (some closer)))

/-- What a reader that needs no more elements complains about at the end of a list. -/
def Ending.over (read : Nat) (rest : List Node) : Ending → Option Failure
  | .held => if rest.isEmpty then none
    else some (.unplaced (.invalidLength (read + rest.length) "fewer elements in array"))
  | .closed _ => rest.head?.map fun n => .placed (start n + 1) .trailingCharacters
  | .broken b => match rest with
    | n :: _ => some (.placed (start n + 1) .trailingCharacters)
    | [] => match b.use.fault with
      | .expectedListCommaOrEnd | .eofInValue => some ⟨.trailingCharacters, b.use.place⟩
      | _ => some b.use

/-- The elements of a list, in order. -/
def elements (reader : Reader α) : List Node → Except Failure (List α)
  | [] => .ok []
  | n :: ns => do
    let a ← inside ']' reader n
    return a :: (← elements reader ns)

/-- Reads a list. -/
def list (reader : Reader α) : Reader (List α)
  | .array start deep items ending =>
    if deep then .error (.placed (start + 1) .tooDeep)
    else do ending.guard (← elements reader items)
  | n => .error (mismatch "a sequence" n)

/-- Reads a list of two elements. -/
def pair (first : Reader α) (second : Reader β) : Reader (α × β)
  | .array start deep items ending =>
    let expected := "a tuple of size 2"
    let short (n : Nat) : Failure := .settle (.exact (stop (.array start deep items ending)))
      (.unplaced (.invalidLength n expected))
    if deep then .error (.placed (start + 1) .tooDeep)
    else match items with
      | [] => match ending.broken? with
        | some b => .error b.use
        | none => .error (short 0)
      | [x] => do
        let _ ← inside ']' first x
        match ending.broken? with
        | some b => throw b.use
        | none => throw (short 1)
      | x :: y :: rest => do
        let a ← inside ']' first x
        let b ← inside ']' second y
        match Ending.over 2 rest ending with
        | some f => throw f
        | none => return (a, b)
  | n => .error (mismatch "a tuple of size 2" n)

/-- The members of an object in the order of the text, added to those before. -/
def entriesFrom (reader : Reader α) (before : List (String × α)) :
    List (Key × Node) → Except Failure (List (String × α))
  | [] => .ok before.reverse
  | (key, n) :: rest => do
    let name ← key.name
    let a ← inside '\x7d' reader n
    if before.any (·.1 == name) then
      throw ⟨.duplicateKey name, some (.resting (stop n) (some '\x7d'))⟩
    entriesFrom reader ((name, a) :: before) rest

/-- Reads an object with any members, none of them twice. -/
def entries (reader : Reader α) : Reader (List (String × α))
  | .object start deep members ending =>
    if deep then .error (.placed (start + 1) .tooDeep)
    else do ending.guard (← entriesFrom reader [] members)
  | n => .error (mismatch "a JSON object" n)

/-- Reads an object with any members; of those with one name the last counts. -/
def members : Reader (List (String × Value))
  | .object start deep members ending =>
    if deep then .error (.placed (start + 1) .tooDeep)
    else do ending.guard (← Node.memberValues [] members)
  | n => .error (mismatch "a map" n)

end Reader

/-! ### Records -/

/-- Whether a member has to be there. -/
inductive Presence
  /-- Always. -/
  | required
  /-- Only where the record is written as a list. -/
  | optional
  /-- Never. -/
  | defaulted
  deriving DecidableEq, Repr, Inhabited

/-- A member of a record of type `σ`. -/
structure Field (σ : Type) where
  name : String
  presence : Presence
  /-- Reads the member into the record. -/
  put : σ → Reader σ

/-- A member that `reader` reads and `set` stores. -/
def field {σ α : Type} (name : String) (presence : Presence) (reader : Reader α)
    (set : σ → α → σ) : Field σ :=
  ⟨name, presence, fun s n => set s <$> reader n⟩

/-- The members of a record, what to call it, and the record before any member is read. -/
structure Shape (σ : Type) where
  expected : String
  fields : List (Field σ)
  blank : σ

namespace Shape

variable {σ : Type}

/-- The members of an object, read into the record; also gives the names of those that were
there. -/
def readMembers (fields : List (Field σ)) (seen : List String) (s : σ) :
    List (Key × Node) → Except Failure (List String × σ)
  | [] => .ok (seen, s)
  | (key, n) :: rest => do
    let name ← key.name
    match fields.find? (·.name == name) with
    | none => match n.skip with
      | some f => throw f
      | none => readMembers fields seen s rest
    | some f =>
      if seen.contains name then
        throw ⟨.duplicateMember name, some (.resting key.stop (some '\x7d'))⟩
      let t ← Reader.inside '\x7d' (f.put s) n
      readMembers fields (name :: seen) t rest

/-- The first member that has to be in an object and was not. -/
def missing? (fields : List (Field σ)) (seen : List String) : Option Fault :=
  (fields.find? fun f => f.presence = .required && !seen.contains f.name).map
    fun f => .missingMember f.name

/-- How a message names the length of a list that gives the record. -/
def lengthExpected (shape : Shape σ) : String :=
  shape.expected ++ " with " ++ toString shape.fields.length ++
    (if shape.fields.length = 1 then " element" else " elements")

/-- The elements of a list, read into the record one member after the other. When the list ends
early, the rest of the members must have defaults. -/
def readElements (shape : Shape σ) (read : Nat) :
    List (Field σ) → σ → List Node → Ending → Except Failure σ
  | [], s, rest, ending => match Reader.Ending.over read rest ending with
    | some f => .error f
    | none => .ok s
  | f :: fs, s, n :: rest, ending => do
    let t ← Reader.inside ']' (f.put s) n
    readElements shape (read + 1) fs t rest ending
  | f :: fs, s, [], ending => match ending.broken? with
    | some b => .error b.use
    | none =>
      if f.presence = .defaulted then readElements shape (read + 1) fs s [] ending
      else .error (.unplaced (.invalidLength read shape.lengthExpected))

/-- Reads a record. -/
def read (shape : Shape σ) : Reader σ
  | .object start deep members ending =>
    if deep then .error (.placed (start + 1) .tooDeep)
    else do
      let (seen, s) ← readMembers shape.fields [] shape.blank members
      let s ← ending.guard s
      match missing? shape.fields seen with
      | some f => throw ⟨f, some (.exact (Reader.stop (.object start deep members ending)))⟩
      | none => return s
  | .array start deep items ending =>
    if deep then .error (.placed (start + 1) .tooDeep)
    else (readElements shape 0 shape.fields shape.blank items ending).mapError
      (.settle (.exact (Reader.stop (.array start deep items ending))))
  | n => .error (Reader.mismatch shape.expected n)

end Shape

/-! ### Alternatives -/

/-- A named alternative: a bare name, or a name with contents. -/
inductive Alternative (α : Type)
  | bare (name : String) (value : α)
  | full (name : String) (contents : Reader α)

namespace Alternative

variable {α : Type}

/-- The name of an alternative. -/
def name : Alternative α → String
  | bare name _ | full name _ => name

/-- Chooses an alternative by its name, which ends before `stop`. -/
def choose (options : List (Alternative α)) (stop : Nat) (name : String) :
    Except Failure (Alternative α) :=
  match options.find? (·.name == name) with
  | some a => .ok a
  | none => .error (.placed stop (.unknownAlternative name (options.map Alternative.name)))

/-- Reads the contents of an alternative. A bare name may have the contents `null`. -/
def readContents : Alternative α → Reader α
  | full _ contents, n => contents n
  | bare _ value, .null .. => .ok value
  | bare .., n => .error (Reader.mismatch "unit" n)

/-- The complaint about an object that does not end behind its first member. -/
def surplus (behind : Node) (rest : List (Key × Node)) (ending : Ending) : Option Failure :=
  match rest, ending.broken? with
  | [], none => none
  | [], some b =>
    if b.use.fault = .eofInObject then some b.use
    else some ⟨.expectedValue, some (.resting (Reader.stop behind) none)⟩
  | _ :: _, _ => some ⟨.expectedValue, some (.resting (Reader.stop behind) none)⟩

end Alternative

/-- Reads one of several alternatives: its bare name, or an object with its name as only member. -/
def alternative {α : Type} (options : List (Alternative α)) : Reader α
  | .string _ stop s => do
    match ← Alternative.choose options stop s with
    | .bare _ a => return a
    | .full .. => throw (.unplaced (.invalidType .bareName "struct variant"))
  | .object start deep members ending =>
    if deep then .error (.placed (start + 1) .tooDeep)
    else match members with
      | [] => match ending with
        | .closed stop => .error (.placed stop .expectedValue)
        | .broken b =>
          .error (if b.use.fault = .eofInObject then ⟨.eofInValue, b.use.place⟩ else b.use)
        | .held => .error (.unplaced .expectedValue)
      | (key, n) :: rest => do
        let name ← key.name
        let option ← Alternative.choose options key.stop name
        let a ← option.readContents n
        match Alternative.surplus n rest ending with
        | some f => throw f
        | none => return a
  | .unusable start use _ =>
    match use.fault with
    | .expectedColon | .eofInObject => .error use
    | fault =>
      if fault.inString || use = .placed start .eofInValue then .error use
      else .error (.placed (start + 1) .expectedValue)
  | n => .error (.placed (Reader.start n + 1) .expectedValue)

/-- What a text holds in the form that `reader` reads, or the wording of what is wrong with it. -/
def Document.decode {α : Type} (text : String) (reader : Reader α) : Except String α :=
  let d := Document.read text.toList
  (d.run reader).mapError (Failure.message d.text)

end Relata.Json
