import Relata.Category
import Relata.Identifier

/-!
# Symbol tables

What the generated module says about a model: the types and relations in model order, each under
its identifier, the types with their stems and the relations with their categories.

## Main definitions

* `RelationSymbol`, `TypeSymbol`, `SymbolTable` — the entries and the table.
* `relationSymbols`, `typeSymbols` — the entries up to the first collision.
* `SymbolTable.build` — the table of a model without collisions.
* `SymbolTable.relationNames` — every relation name once.
-/

namespace Relata

/-- A relation of a type. -/
structure RelationSymbol where
  name : String
  /-- The identifier, owned by this name among the relations of the type. -/
  identifier : String
  category : Category
  deriving DecidableEq, Repr, Inhabited

/-- A type with its relations. -/
structure TypeSymbol where
  name : String
  /-- The identifier, owned by this name among the types. -/
  identifier : String
  /-- What the declarations of the type are named after. -/
  stem : String
  relations : List RelationSymbol
  deriving DecidableEq, Repr, Inhabited

namespace TypeSymbol

/-- The first relation of the given name. -/
def relation? (t : TypeSymbol) (name : String) : Option RelationSymbol :=
  t.relations.find? (·.name == name)

/-- Whether the type has the relation. -/
def hasRelation (t : TypeSymbol) (name : String) : Bool := (t.relation? name).isSome

/-- The names of the relations, in model order. -/
def relationNames (t : TypeSymbol) : List String := t.relations.map (·.name)

/-- The names of the relations of one category, in model order. -/
def namesIn (t : TypeSymbol) (c : Category) : List String :=
  (t.relations.filter (·.category = c)).map (·.name)

end TypeSymbol

/-- The names and categories of a model. -/
structure SymbolTable where
  modelId : Option String
  schemaVersion : String
  types : List TypeSymbol
  conditions : List String
  deriving DecidableEq, Repr, Inhabited

/-! ### Building -/

/-- The entries of relations, up to the first that collides with one before it. -/
def relationSymbols (scope : Scope) : List Relation → List RelationSymbol × Option Collision
  | [] => ([], none)
  | r :: rest =>
    match scope.assign r.name with
    | .error c => ([], some c)
    | .ok (identifier, scope) =>
      let (symbols, c) := relationSymbols scope rest
      (⟨r.name, identifier, r.rule.category⟩ :: symbols, c)

/-- The scope of the relations of a type. -/
def relationScope (type : String) : Scope := .empty ("relations of type '" ++ type ++ "'")

/-- The entries of types, up to the first collision. A type whose relations collide has its entry,
with the relations before the collision. -/
def typeSymbols (identifiers stems : Scope) :
    List TypeDefinition → List TypeSymbol × Option Collision
  | [] => ([], none)
  | t :: rest =>
    match identifiers.assign t.name with
    | .error c => ([], some c)
    | .ok (identifier, identifiers) =>
      let stem := pascalCase identifier
      match stems.claim stem t.name with
      | .error c => ([], some c)
      | .ok stems =>
        match relationSymbols (relationScope t.name) t.relations with
        | (relations, some c) => ([⟨t.name, identifier, stem, relations⟩], some c)
        | (relations, none) =>
          let (symbols, c) := typeSymbols identifiers stems rest
          (⟨t.name, identifier, stem, relations⟩ :: symbols, c)

/-- The entries of the types of a model, up to the first collision. -/
def Model.symbols (m : Model) : List TypeSymbol × Option Collision :=
  typeSymbols (.empty "model type names") (.empty "model type declarations") m.types

namespace SymbolTable

/-- The table of a model, if no two of its names collide. -/
def build (m : Model) : Except Collision SymbolTable :=
  match m.symbols with
  | (types, none) => .ok ⟨m.id, m.schemaVersion, types, m.conditions.map (·.name)⟩
  | (_, some c) => .error c

/-! ### Looking up -/

/-- The first type of the given name. -/
def type? (table : SymbolTable) (name : String) : Option TypeSymbol :=
  table.types.find? (·.name == name)

/-- The names of the types, in model order. -/
def typeNames (table : SymbolTable) : List String := table.types.map (·.name)

/-- The members of a list that are not among those before, each once. -/
def freshNames (before : List String) : List String → List String
  | [] => []
  | name :: rest =>
    if before.contains name then freshNames before rest
    else name :: freshNames (name :: before) rest

/-- Every relation name of the model once, in the order of the first occurrences. -/
def relationNames (table : SymbolTable) : List String :=
  freshNames [] (table.types.flatMap (·.relationNames))

end SymbolTable

end Relata
