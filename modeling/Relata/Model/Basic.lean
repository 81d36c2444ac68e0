/-!
# Authorization models

A model declares object types. A type declares relations, and each relation says by a rule which
subjects stand in it: those assigned directly, those of another relation of the same object, those
of a relation of a related object, or a combination of such sets.

## Main definitions

* `Subject`, `Rule` — who may be assigned, and how a relation is derived.
* `Relation`, `TypeDefinition`, `Condition`, `Model` — the definitions of a model.
* `Model.typeNamed?`, `TypeDefinition.relationNamed?` — look-up by name; the first one counts.
* `Rule.subjects` — every subject that a rule lists, in order.
* `Rule.followsTupleset` — whether a rule looks at related objects.
-/

namespace Relata

/-- What a subject reference covers of the type it names. -/
inductive SubjectKind
  /-- One object: `user`. -/
  | object
  /-- The subjects in a relation to an object: `group#member`. -/
  | userset (relation : String)
  /-- Every object: `user:*`. -/
  | wildcard
  deriving DecidableEq, Repr, Inhabited

/-- A reference to the subjects that may be assigned, possibly under a condition. -/
structure Subject where
  typeName : String
  kind : SubjectKind
  condition : Option String
  deriving DecidableEq, Repr, Inhabited

/-- How a relation is written in terms of assignments and other relations. -/
inductive Rule
  /-- The listed subjects may be assigned. -/
  | direct (subjects : List Subject)
  /-- The subjects in another relation of the same object. -/
  | computed (relation : String)
  /-- The subjects in the relation `computed` of every object assigned in `tupleset`. -/
  | fromTupleset (tupleset computed : String)
  | union (children : List Rule)
  | intersection (children : List Rule)
  | difference (base subtract : Rule)
  deriving Repr, Inhabited

/-- A relation of a type. -/
structure Relation where
  name : String
  rule : Rule
  deriving Repr, Inhabited

/-- An object type with its relations. -/
structure TypeDefinition where
  name : String
  relations : List Relation
  deriving Repr, Inhabited

/-- A condition: an expression over named parameters, each with the text of its type. -/
structure Condition where
  name : String
  expression : String
  parameters : List (String × String)
  deriving DecidableEq, Repr, Inhabited

/-- An authorization model. All lists are in the order of declaration. -/
structure Model where
  id : Option String
  schemaVersion : String
  types : List TypeDefinition
  conditions : List Condition
  deriving Repr, Inhabited

/-! ### Look-up -/

/-- The first relation of the given name. -/
def TypeDefinition.relationNamed? (t : TypeDefinition) (name : String) : Option Relation :=
  t.relations.find? (·.name == name)

namespace Model

/-- The first type of the given name. -/
def typeNamed? (m : Model) (name : String) : Option TypeDefinition :=
  m.types.find? (·.name == name)

/-- The first relation of the given name on the first type of the given name. -/
def relationNamed? (m : Model) (type relation : String) : Option Relation :=
  (m.typeNamed? type).bind (·.relationNamed? relation)

/-- Whether the type declares the relation. -/
def hasRelation (m : Model) (type relation : String) : Bool :=
  (m.relationNamed? type relation).isSome

/-- The same model under another id. -/
def withId (m : Model) (id : String) : Model :=
  ⟨some id, m.schemaVersion, m.types, m.conditions⟩

end Model

/-! ### Subjects of a rule -/

namespace Rule

mutual

/-- The subjects of every direct node, in the order of the text. -/
def subjects : Rule → List Subject
  | direct subjects => subjects
  | computed _ => []
  | fromTupleset _ _ => []
  | union children => subjectsOf children
  | intersection children => subjectsOf children
  | difference base subtract => base.subjects ++ subtract.subjects

/-- The subjects of several rules, one after the other. -/
def subjectsOf : List Rule → List Subject
  | [] => []
  | e :: es => e.subjects ++ subjectsOf es

end

mutual

/-- Whether a node anywhere in the rule follows a tupleset. -/
def followsTupleset : Rule → Bool
  | fromTupleset _ _ => true
  | direct _ => false
  | computed _ => false
  | union children => anyFollowsTupleset children
  | intersection children => anyFollowsTupleset children
  | difference base subtract => base.followsTupleset || subtract.followsTupleset

/-- Whether one of several rules follows a tupleset. -/
def anyFollowsTupleset : List Rule → Bool
  | [] => false
  | e :: es => e.followsTupleset || anyFollowsTupleset es

end

end Rule

/-! ### Subject texts -/

/-- How a message and the model language write a subject kind behind its type. -/
def SubjectKind.suffix : SubjectKind → String
  | object => ""
  | userset relation => "#" ++ relation
  | wildcard => ":*"

/-- How a message and the model language write a subject. -/
def Subject.text (s : Subject) : String :=
  s.typeName ++ s.kind.suffix ++
    match s.condition with
    | none => ""
    | some c => " with " ++ c

end Relata
