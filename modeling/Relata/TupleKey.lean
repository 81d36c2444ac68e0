import Relata.Json.Shape

/-!
# Tuple keys

A tuple key asserts one relationship: a subject stands in a relation to an object, possibly under a
condition.

## Main definitions

* `TupleKey`, `TupleCondition` — keys.
* `TupleKey.toJson` — the written form; what is absent is not written.
* `TupleKey.shape`, `TupleKey.ofJsonText` — readers of that form.
-/

namespace Relata

open Json (Value Reader Shape field)

/-- A condition on a relationship, with what is known about its parameters. -/
structure TupleCondition where
  name : String
  context : Option Value
  deriving Repr, Inhabited

/-- A relationship. The object is written `type:id`. -/
structure TupleKey where
  type : String
  object : String
  relation : String
  user : String
  condition : Option TupleCondition
  deriving Repr, Inhabited

/-- A condition as JSON. -/
def TupleCondition.toJson (c : TupleCondition) : Value :=
  .object (("name", .string c.name) ::
    match c.context with
    | some v => [("context", v)]
    | none => [])

/-- A key as JSON. -/
def TupleKey.toJson (k : TupleKey) : Value :=
  .object ([("type", .string k.type), ("object", .string k.object),
      ("relation", .string k.relation), ("user", .string k.user)] ++
    match k.condition with
    | some c => [("condition", c.toJson)]
    | none => [])

/-- The members of a condition. -/
def TupleCondition.shape : Shape TupleCondition :=
  ⟨"struct TupleCondition",
    [ field "name" .required Reader.text fun c v => ⟨v, c.context⟩,
      field "context" .defaulted (Reader.optional Reader.tree) fun c v => ⟨c.name, v⟩ ],
    ⟨"", none⟩⟩

/-- The members of a key. -/
def TupleKey.shape : Shape TupleKey :=
  ⟨"struct TupleKey",
    [ field "type" .required Reader.text fun k v => ⟨v, k.object, k.relation, k.user, k.condition⟩,
      field "object" .required Reader.text fun k v => ⟨k.type, v, k.relation, k.user, k.condition⟩,
      field "relation" .required Reader.text fun k v => ⟨k.type, k.object, v, k.user, k.condition⟩,
      field "user" .required Reader.text fun k v => ⟨k.type, k.object, k.relation, v, k.condition⟩,
      field "condition" .defaulted (Reader.optional TupleCondition.shape.read)
        fun k v => ⟨k.type, k.object, k.relation, k.user, v⟩ ],
    ⟨"", "", "", "", none⟩⟩

/-- The key that a text holds. -/
def TupleKey.ofJsonText (text : String) : Except String TupleKey :=
  Json.Document.decode text TupleKey.shape.read

end Relata
