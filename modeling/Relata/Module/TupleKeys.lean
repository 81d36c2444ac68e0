import Relata.Source.Line
import Relata.Source.Literal
import Relata.SymbolTable

/-!
# Tuple keys of the generated module

The conditions, an interface for the keys of every type, and the union of them.

## Main definitions

* `tupleKeyInterface` — the interface of one type.
* `tupleKeys` — the lines of the section.
-/

namespace Relata.Module

open Source

/-- The condition names, and their type. -/
def conditionNames (conditions : List String) : List Line :=
  [ .flush ("export const ConditionNames = " ++ stringList conditions ++ " as const;"),
    .flush (if conditions.isEmpty then "export type ConditionName = string;"
      else "export type ConditionName = (typeof ConditionNames)[number];") ]

/-- The interface of a condition in a key. -/
def conditionInterface : List Line :=
  block "export interface TupleKeyCondition \x7b"
    [.flush "name: ConditionName;", .flush "context?: Record<string, unknown>;"] "\x7d"

/-- The interface of the keys of a type. -/
def tupleKeyInterface (t : TypeSymbol) : List Line :=
  block ("export interface " ++ t.stem ++ "TupleKey \x7b")
    [ .flush ("type: typeof " ++ t.stem ++ "Type;"),
      .flush ("object: `" ++ templateText t.name ++ ":$\x7bstring\x7d`;"),
      .flush ("relation: " ++ t.stem ++ "Relation;"),
      .flush "user: string;",
      .flush "condition?: TupleKeyCondition;" ] "\x7d"

/-- The entry of a type in the interface of all keys. -/
def tupleKeyMapEntry (t : TypeSymbol) : Line :=
  .flush (stringLiteral t.name ++ ": " ++ t.stem ++ "TupleKey;")

/-- The members of the union of all keys; the last one ends the declaration. -/
def unionMembers : List TypeSymbol → List Line
  | [] => []
  | [t] => [.flush ("| " ++ t.stem ++ "TupleKey;")]
  | t :: u :: rest => .flush ("| " ++ t.stem ++ "TupleKey") :: unionMembers (u :: rest)

/-- The union of all keys. -/
def tupleKeyUnion (types : List TypeSymbol) : List Line :=
  if types.isEmpty then [.flush "export type TupleKey = never;"]
  else .flush "export type TupleKey =" :: (unionMembers types).map Line.deeper

/-- The tuple keys. -/
def tupleKeys (table : SymbolTable) : List Line :=
  conditionNames table.conditions ++ .blank :: conditionInterface ++ .blank ::
  table.types.flatMap (fun t => tupleKeyInterface t ++ [.blank]) ++
  block "export interface TupleKeyMap \x7b" (table.types.map tupleKeyMapEntry) "\x7d" ++
  .blank :: tupleKeyUnion table.types

end Relata.Module
