import Relata.SymbolTable
import Relata.TupleKey

/-!
# Object references

An object is referred to by its type and its id with a colon between them. The id may hold anything,
the type no colon, so the first colon separates them.

## Main definitions

* `ObjectReference` — a type and an id; `ObjectReference.text` is the written form.
* `ReferenceError` — why a reference or a key cannot be built.
* `formatObject`, `SymbolTable.parseObject` — writing and reading references.
* `SymbolTable.isValidRelation`, `SymbolTable.buildTupleKey` — keys for the relations of a model.
-/

namespace Relata

/-- A reference to an object. -/
structure ObjectReference where
  type : String
  id : String
  deriving DecidableEq, Repr, Inhabited

/-- The character between a type and an id. -/
def objectSeparator : Char := ':'

/-- The written form of a type and an id. -/
def referenceText (type id : String) : String := type ++ objectSeparator.toString ++ id

/-- The written form of a reference. -/
def ObjectReference.text (o : ObjectReference) : String := referenceText o.type o.id

/-- Why a reference or a key cannot be built. -/
inductive ReferenceError
  | unknownType (type : String)
  | unknownRelation (type relation : String)
  | emptyId (type : String)
  deriving DecidableEq, Repr, Inhabited

/-- The wording of the error. -/
def ReferenceError.message : ReferenceError → String
  | unknownType t => "type not found: " ++ t
  | unknownRelation t r => "relation '" ++ r ++ "' is not defined on type '" ++ t ++ "'"
  | emptyId t => "object id for type '" ++ t ++ "' cannot be empty"

/-- Writes a reference. An id must not be empty. -/
def formatObject (type id : String) : Except ReferenceError String :=
  if id = "" then .error (.emptyId type) else .ok (referenceText type id)

/-- Splits a text at its first separator. -/
def splitReference : List Char → Option (List Char × List Char)
  | [] => none
  | c :: rest =>
    if c = objectSeparator then some ([], rest)
    else (splitReference rest).map fun (type, id) => (c :: type, id)

namespace SymbolTable

/-- Reads a reference to an object of a type of the model. -/
def parseObject (table : SymbolTable) (text : String) : Option ObjectReference := do
  let (type, id) ← splitReference text.toList
  if id.isEmpty || (table.type? (String.ofList type)).isNone then none
  else some ⟨String.ofList type, String.ofList id⟩

/-- Whether the model has the relation on the type. -/
def isValidRelation (table : SymbolTable) (type relation : String) : Bool :=
  (table.type? type).any (·.hasRelation relation)

/-- Builds the key of a relationship. The type is looked at first, then the relation, then the
id. -/
def buildTupleKey (table : SymbolTable) (type id relation user : String)
    (condition : Option TupleCondition) : Except ReferenceError TupleKey :=
  match table.type? type with
  | none => .error (.unknownType type)
  | some t =>
    if t.hasRelation relation then
      (formatObject type id).map fun object => ⟨type, object, relation, user, condition⟩
    else .error (.unknownRelation type relation)

end SymbolTable

end Relata
