import Relata.Json.Shape
import Relata.Model.Basic

/-!
# Model payloads

The JSON form in which an authorization service sends and takes models. Relations, their metadata
and conditions stay values until the model is built from the payload, so that the complaint about
one names the relation or the condition.

## Main definitions

* `ModelPayload`, `TypePayload` — a payload as it is read from a text.
* `UsersetPayload` — the tree that says how a relation is derived.
* `ConditionPayload`, `SubjectPayload` — a condition and a subject.
* `ModelPayload.ofText` — the payload that a text holds, bare or wrapped.
-/

namespace Relata

open Json (Value Reader Shape Node Failure field)

/-- The members of an object in the order of the text. -/
abbrev Entries := List (String × Value)

/-- A type of a payload. -/
structure TypePayload where
  name : String
  /-- The relations, no name twice. -/
  relations : Option Entries
  /-- What the metadata say about relations, if there are metadata. -/
  metadata : Option (Option Entries)
  deriving Repr, Inhabited

/-- A payload. -/
structure ModelPayload where
  id : Option String
  schemaVersion : String
  types : List TypePayload
  /-- The conditions, no name twice. -/
  conditions : Option Entries
  deriving Repr, Inhabited

/-- A node of the tree that derives a relation. A well-formed node has exactly one member. -/
inductive UsersetPayload
  | mk (this : Option Value) (computedUserset : Option String)
      (tupleToUserset : Option (String × String))
      (union intersection : Option (List UsersetPayload))
      (difference : Option (Option UsersetPayload × Option UsersetPayload))
  deriving Inhabited

/-- A subject as the metadata list it. -/
structure SubjectPayload where
  typeName : String
  relation : Option String
  wildcard : Option Value
  condition : Option String
  deriving Repr, Inhabited

/-- A condition as a value. -/
structure ConditionPayload where
  expression : String
  parameters : Option Entries
  deriving Repr, Inhabited

/-! ### Reading -/

/-- The metadata of a type. -/
def metadataShape : Shape (Option Entries) :=
  ⟨"struct TypeMetadataPayload",
    [field "relations" .defaulted (Reader.optional Reader.members) fun _ v => v], none⟩

/-- The members of a type. -/
def TypePayload.shape : Shape TypePayload :=
  ⟨"struct TypeDefinitionPayload",
    [ field "type" .required Reader.text fun t v => ⟨v, t.relations, t.metadata⟩,
      field "relations" .defaulted (Reader.optional (Reader.entries Reader.tree))
        fun t v => ⟨t.name, v, t.metadata⟩,
      field "metadata" .defaulted (Reader.optional metadataShape.read)
        fun t v => ⟨t.name, t.relations, v⟩ ],
    ⟨"", none, none⟩⟩

/-- The members of a payload. A payload without a schema version has version 1.1. -/
def ModelPayload.shape : Shape ModelPayload :=
  ⟨"struct ModelPayload",
    [ field "id" .defaulted (Reader.optional Reader.text)
        fun p v => ⟨v, p.schemaVersion, p.types, p.conditions⟩,
      field "schema_version" .defaulted Reader.text
        fun p v => ⟨p.id, v, p.types, p.conditions⟩,
      field "type_definitions" .defaulted (Reader.list TypePayload.shape.read)
        fun p v => ⟨p.id, p.schemaVersion, v, p.conditions⟩,
      field "conditions" .defaulted (Reader.optional (Reader.entries Reader.tree))
        fun p v => ⟨p.id, p.schemaVersion, p.types, v⟩ ],
    ⟨none, "1.1", [], none⟩⟩

/-- The only member of an answer that wraps a payload. -/
def wrappedShape : Shape ModelPayload :=
  ⟨"struct WrappedModelPayload",
    [field "authorization_model" .required ModelPayload.shape.read fun _ v => v],
    ⟨none, "", [], none⟩⟩

/-- The name of a relation, empty if it is absent. -/
def objectRelationShape : Shape String :=
  ⟨"struct ObjectRelationPayload", [field "relation" .defaulted Reader.text fun _ v => v], ""⟩

/-- The relations of a tuple-to-userset node. -/
def tupleToUsersetShape : Shape (String × String) :=
  ⟨"struct TupleToUsersetPayload",
    [ field "tupleset" .required objectRelationShape.read fun p v => (v, p.2),
      field "computedUserset" .required objectRelationShape.read fun p v => (p.1, v) ],
    ("", "")⟩

namespace UsersetPayload

/-- A node without members. -/
def blank : UsersetPayload := .mk none none none none none none

/-- The operands of a set operation. -/
def operandsShape (reader : Reader UsersetPayload) : Shape (List UsersetPayload) :=
  ⟨"struct UsersetsPayload", [field "child" .defaulted (Reader.list reader) fun _ v => v], []⟩

/-- The operands of a difference. -/
def differenceShape (reader : Reader UsersetPayload) :
    Shape (Option UsersetPayload × Option UsersetPayload) :=
  ⟨"struct DifferencePayload",
    [ field "base" .defaulted (Reader.optional reader) fun p v => (v, p.2),
      field "subtract" .defaulted (Reader.optional reader) fun p v => (p.1, v) ],
    (none, none)⟩

/-- The members of a node whose operands are read by `reader`. -/
def shape (reader : Reader UsersetPayload) : Shape UsersetPayload :=
  ⟨"struct UsersetPayload",
    [ field "this" .defaulted (Reader.optional Reader.tree)
        fun | .mk _ c t u i d, v => .mk v c t u i d,
      field "computedUserset" .defaulted (Reader.optional objectRelationShape.read)
        fun | .mk s _ t u i d, v => .mk s v t u i d,
      field "tupleToUserset" .defaulted (Reader.optional tupleToUsersetShape.read)
        fun | .mk s c _ u i d, v => .mk s c v u i d,
      field "union" .defaulted (Reader.optional (operandsShape reader).read)
        fun | .mk s c t _ i d, v => .mk s c t v i d,
      field "intersection" .defaulted (Reader.optional (operandsShape reader).read)
        fun | .mk s c t u _ d, v => .mk s c t u v d,
      field "difference" .defaulted (Reader.optional (differenceShape reader).read)
        fun | .mk s c t u i _, v => .mk s c t u i v ],
    blank⟩

/-- Reads a tree that nests at most `fuel` deep. -/
def readerWithin : Nat → Reader UsersetPayload
  | 0, _ => .error (.unplaced .tooDeep)
  | fuel + 1, n => (shape (readerWithin fuel)).read n

/-- Reads a tree. It is part of a document, so it nests no deeper than one. -/
def reader : Reader UsersetPayload := readerWithin (Json.nestingLimit + 1)

end UsersetPayload

/-- The members of a subject. -/
def SubjectPayload.shape : Shape SubjectPayload :=
  ⟨"struct RelationReferencePayload",
    [ field "type" .required Reader.text fun s v => ⟨v, s.relation, s.wildcard, s.condition⟩,
      field "relation" .defaulted (Reader.optional Reader.text)
        fun s v => ⟨s.typeName, v, s.wildcard, s.condition⟩,
      field "wildcard" .defaulted (Reader.optional Reader.tree)
        fun s v => ⟨s.typeName, s.relation, v, s.condition⟩,
      field "condition" .defaulted (Reader.optional Reader.text)
        fun s v => ⟨s.typeName, s.relation, s.wildcard, v⟩ ],
    ⟨"", none, none, none⟩⟩

/-- What the metadata of a relation say: the subjects that may be assigned. -/
def relationMetadataShape : Shape (List SubjectPayload) :=
  ⟨"struct RelationMetadataPayload",
    [field "directly_related_user_types" .defaulted (Reader.list SubjectPayload.shape.read)
      fun _ v => v], []⟩

/-- The members of a condition. -/
def ConditionPayload.shape : Shape ConditionPayload :=
  ⟨"struct ConditionPayload",
    [ field "expression" .defaulted Reader.text fun c v => ⟨v, c.parameters⟩,
      field "parameters" .defaulted (Reader.optional Reader.members)
        fun c v => ⟨c.expression, v⟩ ],
    ⟨"", none⟩⟩

/-! ### Texts -/

/-- Why a text is no payload. -/
inductive PayloadTextError
  /-- It is no JSON. -/
  | json (reason : String)
  /-- It is JSON of another shape. -/
  | shape (reason : String)
  deriving DecidableEq, Repr, Inhabited

/-- The wording of the error. -/
def PayloadTextError.message : PayloadTextError → String
  | json reason => "invalid JSON: " ++ reason
  | shape reason => "invalid model payload: " ++ reason

/-- The payload that a text holds, which is its member `authorization_model` if it has one. -/
def ModelPayload.ofText (text : String) : Except PayloadTextError ModelPayload :=
  let d := Json.Document.read text.toList
  match d.value with
  | .error f => .error (.json (f.message d.text))
  | .ok v =>
    let shape := if (v.get? "authorization_model").isSome then wrappedShape else ModelPayload.shape
    (d.run shape.read).mapError fun f => .shape (f.message d.text)

end Relata
