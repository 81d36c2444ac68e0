import Relata.Model.Reading
import Relata.Module.Helpers
import Relata.Module.ObjectTypes
import Relata.Module.Relations
import Relata.Module.TupleKeys
import Relata.Timestamp

/-!
# The generated module

The whole text of a module: a header, the sections of types, relations, tuple keys and helpers, and
the metadata. The time of generation stands on a line of its own and nowhere else.

## Main definitions

* `moduleLines`, `moduleText` — the text for a symbol table.
* `GeneratedModule`, `Model.generateAt` — the module of a valid model.
* `GeneratedModule.withoutTimestamp` — its text without the line of the timestamp.
-/

namespace Relata.Module

open Source

/-- The comments at the start. -/
def header (table : SymbolTable) : List Line :=
  let schema := Text.commentText table.schemaVersion
  [ .flush "// Code generated by rsfga-typegen. DO NOT EDIT.",
    .flush (match table.modelId with
      | some id =>
        "// Authorization model " ++ Text.commentText id ++ " (schema " ++ schema ++ ")"
      | none => "// Authorization model (schema " ++ schema ++ ")"),
    .flush "/* eslint-disable */",
    .blank ]

/-- The comment over a section. -/
def sectionTitle (title : String) : List Line :=
  [.flush ("// ---- " ++ title ++ " ----"), .blank]

/-- A section: its title, and its text line by line. -/
def titled (title : String) (body : List Line) : List Line :=
  sectionTitle title ++ relaid (render body) ++ [.blank]

/-- How the line with the time of generation starts. -/
def timestampPrefix : String := "export const GENERATED_AT = "

/-- The line with the time of generation. -/
def timestampLine (t : Instant) : Line :=
  .flush (timestampPrefix ++ stringLiteral t.text ++ ";")

/-- The entry of a type in the table of categories. -/
def relationCategoriesEntry (t : TypeSymbol) : Line :=
  .flush (propertyKey (stringLiteral t.name) ++ ": " ++ t.stem ++ "RelationCategories,")

/-- The metadata of the model. -/
def metadata (table : SymbolTable) : List Line :=
  block "export const MODEL_METADATA = \x7b"
    ([ .flush ("modelId: " ++ (table.modelId.map stringLiteral).getD "null" ++ ","),
        .flush ("schemaVersion: " ++ stringLiteral table.schemaVersion ++ ","),
        .flush ("objectTypes: " ++ stringList table.typeNames ++ ","),
        .flush ("relations: " ++ stringList table.relationNames ++ ","),
        .flush "relationsByObject: RelationsByObject," ] ++
      block "relationCategories: \x7b" (table.types.map relationCategoriesEntry) "\x7d," ++
      [.flush "generatedAt: GENERATED_AT,"])
    "\x7d as const;"

/-- The lines of a module. -/
def moduleLines (table : SymbolTable) (t : Instant) : List Line :=
  header table ++
  titled "Object types" (objectTypes table) ++
  titled "Relations" (relationGroups table) ++
  titled "Tuple keys" (tupleKeys table) ++
  titled "Helpers" Helpers.lines ++
  sectionTitle "Metadata" ++
  timestampLine t :: .blank :: metadata table

/-- The text of a module. -/
def moduleText (table : SymbolTable) (t : Instant) : String := render (moduleLines table t)

end Relata.Module

namespace Relata

/-- A generated module. -/
structure GeneratedModule where
  fileName : String
  source : String
  generatedAt : Instant
  deriving DecidableEq, Repr, Inhabited

/-- The name of the module's file where none is chosen. -/
def defaultFileName : String := "fga-types.generated.ts"

/-- A text without the lines of the timestamp. -/
def withoutTimestamp (source : String) : String :=
  Text.unlines ((Text.linesOf source).filter fun l =>
    !Module.timestampPrefix.toList.isPrefixOf l.toList)

/-- The module's text without the line of the timestamp. -/
def GeneratedModule.withoutTimestamp (g : GeneratedModule) : String :=
  Relata.withoutTimestamp g.source

/-- Why no module is generated. -/
inductive GenerationError
  | model (error : ModelError)
  | collision (collision : Collision)
  deriving DecidableEq, Repr, Inhabited

/-- The wording of the error. -/
def GenerationError.message : GenerationError → String
  | model e => e.message
  | collision c => c.message

/-- The module for a model at a time. The model must be valid, and its names must not collide. -/
def Model.generateAt (m : Model) (t : Instant) : Except GenerationError GeneratedModule := do
  m.validate.mapError .model
  let table ← (SymbolTable.build m).mapError .collision
  return ⟨defaultFileName, Module.moduleText table t, t⟩

end Relata
