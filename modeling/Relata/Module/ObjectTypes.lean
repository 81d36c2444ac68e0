import Relata.Source.Line
import Relata.Source.Literal
import Relata.SymbolTable

/-!
# Object types of the generated module

A constant for every type, the table of them, and the type of their names.

## Main definitions

* `objectTypes` — the lines of the section.
-/

namespace Relata.Module

open Source

/-- The constant that holds the name of a type. -/
def typeConstant (t : TypeSymbol) : Line :=
  .flush ("export const " ++ t.stem ++ "Type = " ++ stringLiteral t.name ++ " as const;")

/-- The entry of a type in the table of types. -/
def objectTypeEntry (t : TypeSymbol) : Line :=
  .flush (propertyKey t.identifier ++ ": " ++ t.stem ++ "Type,")

/-- The object types. -/
def objectTypes (table : SymbolTable) : List Line :=
  table.types.map typeConstant ++
  (if table.types.isEmpty then [] else [.blank]) ++
  block "export const ObjectTypes = \x7b" (table.types.map objectTypeEntry) "\x7d as const;" ++
  [ .blank,
    .flush (if table.types.isEmpty then "export type ObjectTypeName = never;"
      else "export type ObjectTypeName = (typeof ObjectTypes)[keyof typeof ObjectTypes];") ]

end Relata.Module
