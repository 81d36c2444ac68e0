import Relata.Model.Basic
import Relata.Json.Shape

/-!
# Models as JSON

The tree form of a model as a JSON document: every structure is an object with all its members, an
alternative without contents is a string, one with contents an object with one member.

## Main definitions

* `Model.toJson`, `Rule.toJson`, `Subject.toJson` — the written form.
* `Model.shape`, `Rule.reader`, `Subject.shape` — readers of that form.
* `Model.ofJsonText` — the model that a text holds.
-/

namespace Relata

open Json (Value Reader Shape Failure field alternative)

/-- A string or `null`. -/
def optionalText : Option String → Value
  | none => .null
  | some s => .string s

/-! ### Writing -/

/-- A subject kind as JSON. -/
def SubjectKind.toJson : SubjectKind → Value
  | object => .string "Type"
  | userset relation => .object [("Userset", .object [("relation", .string relation)])]
  | wildcard => .string "Wildcard"

/-- A subject as JSON. -/
def Subject.toJson (s : Subject) : Value :=
  .object [("type_name", .string s.typeName), ("kind", s.kind.toJson),
    ("condition", optionalText s.condition)]

namespace Rule

mutual

/-- A rule as JSON. -/
def toJson : Rule → Value
  | direct subjects =>
    .object [("Direct", .object [("subjects", .array (subjects.map Subject.toJson))])]
  | computed relation =>
    .object [("ComputedUserset", .object [("relation", .string relation)])]
  | fromTupleset tupleset relation =>
    .object [("TupleToUserset",
      .object [("tupleset", .string tupleset), ("computed_userset", .string relation)])]
  | union children => .object [("Union", .object [("children", .array (toJsons children))])]
  | intersection children =>
    .object [("Intersection", .object [("children", .array (toJsons children))])]
  | difference base subtract =>
    .object [("Difference", .object [("base", base.toJson), ("subtract", subtract.toJson)])]

/-- Several rules as JSON. -/
def toJsons : List Rule → List Value
  | [] => []
  | e :: es => e.toJson :: toJsons es

end

end Rule

/-- A relation as JSON. -/
def Relation.toJson (r : Relation) : Value :=
  .object [("name", .string r.name), ("rewrite", r.rule.toJson)]

/-- A type definition as JSON. -/
def TypeDefinition.toJson (t : TypeDefinition) : Value :=
  .object [("type_name", .string t.name), ("relations", .array (t.relations.map Relation.toJson))]

/-- A condition as JSON. -/
def Condition.toJson (c : Condition) : Value :=
  .object [("name", .string c.name), ("expression", .string c.expression),
    ("parameters", .array (c.parameters.map fun p => .array [.string p.1, .string p.2]))]

/-- A model as JSON. -/
def Model.toJson (m : Model) : Value :=
  .object [("id", optionalText m.id), ("schema_version", .string m.schemaVersion),
    ("type_definitions", .array (m.types.map TypeDefinition.toJson)),
    ("conditions", .array (m.conditions.map Condition.toJson))]

/-! ### Reading -/

/-- A record with one string. -/
def oneText (expected name : String) : Shape String :=
  ⟨expected, [field name .required Reader.text fun _ s => s], ""⟩

/-- Reads a subject kind. -/
def SubjectKind.reader : Reader SubjectKind :=
  alternative
    [ .bare "Type" object,
      .full "Userset" fun n =>
        userset <$> (oneText "struct variant SubjectKind::Userset" "relation").read n,
      .bare "Wildcard" wildcard ]

/-- The members of a subject. -/
def Subject.shape : Shape Subject :=
  ⟨"struct SubjectReference",
    [ field "type_name" .required Reader.text fun s v => ⟨v, s.kind, s.condition⟩,
      field "kind" .required SubjectKind.reader fun s v => ⟨s.typeName, v, s.condition⟩,
      field "condition" .optional (Reader.optional Reader.text)
        fun s v => ⟨s.typeName, s.kind, v⟩ ],
    ⟨"", .object, none⟩⟩

namespace Rule

/-- Reads a rule that nests at most `fuel` deep. -/
def readerWithin : Nat → Reader Rule
  | 0, n => .error (.placed (Reader.start n + 1) .tooDeep)
  | fuel + 1, n =>
    let children (expected : String) : Shape (List Rule) :=
      ⟨expected,
        [field "children" .required (Reader.list (readerWithin fuel)) fun _ v => v], []⟩
    alternative
      [ .full "Direct" fun n => direct <$> (Shape.read
          ⟨"struct variant RelationExpression::Direct",
            [field "subjects" .required (Reader.list Subject.shape.read) fun _ v => v], []⟩ n),
        .full "ComputedUserset" fun n =>
          computed <$>
            (oneText "struct variant RelationExpression::ComputedUserset" "relation").read n,
        .full "TupleToUserset" fun n =>
          (fun p : String × String => fromTupleset p.1 p.2) <$> (Shape.read
            ⟨"struct variant RelationExpression::TupleToUserset",
              [ field "tupleset" .required Reader.text fun p v => (v, p.2),
                field "computed_userset" .required Reader.text fun p v => (p.1, v) ],
              ("", "")⟩ n),
        .full "Union" fun n =>
          union <$> (children "struct variant RelationExpression::Union").read n,
        .full "Intersection" fun n =>
          intersection <$> (children "struct variant RelationExpression::Intersection").read n,
        .full "Difference" fun n =>
          (fun p : Rule × Rule => difference p.1 p.2) <$> (Shape.read
            ⟨"struct variant RelationExpression::Difference",
              [ field "base" .required (readerWithin fuel) fun p v => (v, p.2),
                field "subtract" .required (readerWithin fuel) fun p v => (p.1, v) ],
              (direct [], direct [])⟩ n) ] n

/-- Reads a rule. A rule opens brackets at every level, so it nests no deeper than a
document does. -/
def reader : Reader Rule := readerWithin (Json.nestingLimit + 1)

end Rule

/-- The members of a relation. -/
def Relation.shape : Shape Relation :=
  ⟨"struct RelationDefinition",
    [ field "name" .required Reader.text fun r v => ⟨v, r.rule⟩,
      field "rewrite" .required Rule.reader fun r v => ⟨r.name, v⟩ ],
    ⟨"", .direct []⟩⟩

/-- The members of a type definition. -/
def TypeDefinition.shape : Shape TypeDefinition :=
  ⟨"struct TypeDefinition",
    [ field "type_name" .required Reader.text fun t v => ⟨v, t.relations⟩,
      field "relations" .required (Reader.list Relation.shape.read) fun t v => ⟨t.name, v⟩ ],
    ⟨"", []⟩⟩

/-- The members of a condition. -/
def Condition.shape : Shape Condition :=
  ⟨"struct ConditionDefinition",
    [ field "name" .required Reader.text fun c v => ⟨v, c.expression, c.parameters⟩,
      field "expression" .required Reader.text fun c v => ⟨c.name, v, c.parameters⟩,
      field "parameters" .required (Reader.list (Reader.pair Reader.text Reader.text))
        fun c v => ⟨c.name, c.expression, v⟩ ],
    ⟨"", "", []⟩⟩

/-- The members of a model. -/
def Model.shape : Shape Model :=
  ⟨"struct AuthorizationModel",
    [ field "id" .optional (Reader.optional Reader.text)
        fun m v => ⟨v, m.schemaVersion, m.types, m.conditions⟩,
      field "schema_version" .required Reader.text
        fun m v => ⟨m.id, v, m.types, m.conditions⟩,
      field "type_definitions" .required (Reader.list TypeDefinition.shape.read)
        fun m v => ⟨m.id, m.schemaVersion, v, m.conditions⟩,
      field "conditions" .required (Reader.list Condition.shape.read)
        fun m v => ⟨m.id, m.schemaVersion, m.types, v⟩ ],
    ⟨none, "", [], []⟩⟩

/-- The model that a text holds. -/
def Model.ofJsonText (text : String) : Except String Model :=
  Json.Document.decode text Model.shape.read

end Relata
