import Relata.Source.Line
import Relata.Source.Literal
import Relata.SymbolTable

/-!
# Relations of the generated module

For every type the table of its relations, their type, and the relations by category; then the
relations of all types.

## Main definitions

* `relationGroup` — the declarations of one type.
* `relationGroups` — the lines of the section.
-/

namespace Relata.Module

open Source

/-- The entry of a relation in the table of its type. -/
def relationEntry (r : RelationSymbol) : Line :=
  .flush (propertyKey r.identifier ++ ": " ++ stringLiteral r.name ++ ",")

/-- The table of the relations of a type, and their type. -/
def relationTable (t : TypeSymbol) : List Line :=
  if t.relations.isEmpty then
    [ .flush ("export const " ++ t.stem ++ "Relations = \x7b\x7d as const;"),
      .flush ("export type " ++ t.stem ++ "Relation = never;") ]
  else
    block ("export const " ++ t.stem ++ "Relations = \x7b") (t.relations.map relationEntry)
      "\x7d as const;" ++
    [ .flush ("export type " ++ t.stem ++ "Relation = (typeof " ++ t.stem ++
        "Relations)[keyof typeof " ++ t.stem ++ "Relations];") ]

/-- The entry of a category: the relations of the type that fall into it. -/
def categoryEntry (t : TypeSymbol) (c : Category) : Line :=
  .flush (c.name ++ ": " ++ stringList (t.namesIn c) ++ ",")

/-- The relations of a type by category. -/
def categoryTable (t : TypeSymbol) : List Line :=
  block ("export const " ++ t.stem ++ "RelationCategories = \x7b")
    (Category.all.map (categoryEntry t)) "\x7d as const;"

/-- The declarations of one type. -/
def relationGroup (t : TypeSymbol) : List Line := relationTable t ++ categoryTable t

/-- The entry of a type in the interface of relation types. -/
def relationMapEntry (t : TypeSymbol) : Line :=
  .flush (stringLiteral t.name ++ ": " ++ t.stem ++ "Relation;")

/-- The entry of a type in the table of relation names. -/
def relationsByObjectEntry (t : TypeSymbol) : Line :=
  .flush (propertyKey (stringLiteral t.name) ++ ": " ++ stringList t.relationNames ++ ",")

/-- The relations. -/
def relationGroups (table : SymbolTable) : List Line :=
  table.types.flatMap (fun t => relationGroup t ++ [.blank]) ++
  block "export interface RelationMap \x7b" (table.types.map relationMapEntry) "\x7d" ++
  .blank ::
  block "export const RelationsByObject = \x7b" (table.types.map relationsByObjectEntry)
    "\x7d as const;"

end Relata.Module
