import Relata.Json.Printer
import Relata.Module.Emission

/-!
# Log events

What a run reports on its way. Events are a function of the same input as the result, so that the
computations themselves stay free of them.

## Main definitions

* `Level`, `Event` — an event with its level, its source and its members.
* `Model.validationEvents`, `Model.symbolEvents` — the events of the single steps.
* `Model.generationEvents` — the events of generating a module.
* `ModelPayload.readingEvents` — the events of reading a payload.
-/

namespace Relata

open Json (Value)

/-- How important an event is. -/
inductive Level
  | trace
  | debug
  | info
  | warn
  | error
  deriving DecidableEq, Repr, Inhabited

/-- The name of a level. -/
def Level.name : Level → String
  | trace => "TRACE"
  | debug => "DEBUG"
  | info => "INFO"
  | warn => "WARN"
  | error => "ERROR"

/-- An event. -/
structure Event where
  level : Level
  /-- The part of the program that reports it. -/
  target : String
  message : String
  /-- What the event says beyond its message. -/
  members : List (String × Value)
  deriving Repr, Inhabited

namespace Event

/-- The written form of an event. -/
def toJson (e : Event) : Value :=
  .object [("level", .string e.level.name),
    ("fields", .object (("message", .string e.message) :: e.members)),
    ("target", .string e.target)]

/-- A count as a member of an event. -/
def count (n : Nat) : Value := .number (.integer n)

end Event

namespace Model

/-- Validation reports how many problems it found. -/
def validationEvents (m : Model) : List Event :=
  [⟨.trace, "rsfga_typegen::model::validation", "Validated authorization model",
    [("errors", Event.count m.problems.length)]⟩]

/-- The category of every relation that got its identifier. -/
def classificationEvents (types : List TypeSymbol) : List Event :=
  types.flatMap fun t => t.relations.map fun r =>
    ⟨.trace, "rsfga_typegen::symbols", "Classified relation",
      [("object_type", .string t.name), ("relation", .string r.name),
        ("category", .string r.category.name)]⟩

/-- Building the symbol table reports every relation and, when it is done, the counts. -/
def symbolEvents (m : Model) : List Event :=
  let (types, collision) := m.symbols
  classificationEvents types ++
    if collision.isSome then []
    else [⟨.debug, "rsfga_typegen::symbols", "Built symbol table",
      [("object_types", Event.count types.length),
        ("relations", Event.count (types.flatMap (·.relations)).length)]⟩]

/-- A rendered module reports its size, and that it is done. -/
def renderingEvents (table : SymbolTable) (source : String) : List Event :=
  [ ⟨.debug, "rsfga_typegen::emit", "Rendered module source",
      [("bytes", Event.count source.utf8ByteSize)]⟩,
    ⟨.info, "rsfga_typegen::emit", "Generated TypeScript module",
      [("model_id", .string (table.modelId.getD "<none>")),
        ("object_types", Event.count table.types.length)]⟩ ]

/-- The events of generating a module at a time. -/
def generationEvents (m : Model) (t : Instant) : List Event :=
  m.validationEvents ++
    match m.validate with
    | .error _ => []
    | .ok _ => m.symbolEvents ++
      match SymbolTable.build m with
      | .error _ => []
      | .ok table => renderingEvents table (Module.moduleText table t)

end Model

/-- The events of reading a model from a payload: its validation and, if it is valid, that the
payload was decoded. -/
def ModelPayload.readingEvents (p : ModelPayload) : List Event :=
  match p.model with
  | .error _ => []
  | .ok m => m.validationEvents ++
    match m.validate with
    | .error _ => []
    | .ok _ => [⟨.debug, "rsfga_typegen::model::payload", "Decoded authorization model payload",
      [("types", Event.count m.types.length), ("schema_version", .string m.schemaVersion)]⟩]

/-- The events of reading a model from a payload text. -/
def Model.jsonEvents (text : String) : List Event :=
  match ModelPayload.ofText text with
  | .error _ => []
  | .ok p => p.readingEvents

end Relata
