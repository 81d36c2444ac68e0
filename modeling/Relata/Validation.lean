import Relata.Model.Basic
import Relata.Text.Blank
import Relata.Text.Quoted

/-!
# Validity of models

A model is valid if its names are usable and unique and every reference in it resolves. Every
problem is reported, in the order of the model.

## Main definitions

* `NameProblem`, `RuleProblem`, `Problem` — what can be wrong, and the wording.
* `nameProblem?` — what is wrong with a name.
* `Model.defines` — whether a reference to a relation of a type resolves.
* `Rule.problems`, `Model.problems` — the problems of an expression and of a model.
-/

namespace Relata

/-! ### Problems -/

/-- Why a text is no name for a type or relation. -/
inductive NameProblem
  | empty
  | tooLong
  | delimiter
  | blank
  deriving DecidableEq, Repr, Inhabited

/-- The wording of a name problem. -/
def NameProblem.message : NameProblem → String
  | empty => "is empty"
  | tooLong => "is longer than 254 characters"
  | delimiter => "contains one of ':', '#' or '@'"
  | blank => "contains whitespace"

/-- Why a rule cannot be used. -/
inductive RuleProblem
  | noSubjects
  | undefinedSubjectType (subject : Subject)
  | undefinedSubjectRelation (subject : Subject) (relation : String)
  | undefinedCondition (subject : Subject) (condition : String)
  | undefinedRelation (relation : String)
  | undefinedTupleset (tupleset : String)
  | unresolved (computed tupleset : String)
  | noOperands
  deriving DecidableEq, Repr, Inhabited

/-- The wording of a rule problem. -/
def RuleProblem.message : RuleProblem → String
  | noSubjects => "directly assignable relation declares no allowed subject types"
  | undefinedSubjectType s =>
    "subject reference '" ++ s.text ++ "' names undefined type '" ++ s.typeName ++ "'"
  | undefinedSubjectRelation s r =>
    "subject reference '" ++ s.text ++ "' names undefined relation '" ++ r ++ "'"
  | undefinedCondition s c =>
    "subject reference '" ++ s.text ++ "' names undefined condition '" ++ c ++ "'"
  | undefinedRelation r => "computed userset references undefined relation '" ++ r ++ "'"
  | undefinedTupleset t => "tupleset references undefined relation '" ++ t ++ "'"
  | unresolved computed tupleset =>
    "'" ++ computed ++ " from " ++ tupleset ++ "' does not resolve on any related type"
  | noOperands => "set operation has no operands"

/-- What is wrong with a model. -/
inductive Problem
  | controlInId (id : String)
  | controlInSchemaVersion (version : String)
  | typeName (name : String) (problem : NameProblem)
  | duplicateType (name : String)
  | relationName (type relation : String) (problem : NameProblem)
  | duplicateRelation (type relation : String)
  | inRule (type relation : String) (problem : RuleProblem)
  deriving DecidableEq, Repr, Inhabited

/-- The wording of a problem. -/
def Problem.message : Problem → String
  | controlInId id => "model id " ++ Text.quoted id ++ " contains control characters"
  | controlInSchemaVersion v =>
    "schema version " ++ Text.quoted v ++ " contains control characters"
  | typeName n p => "type name " ++ Text.quoted n ++ " " ++ p.message
  | duplicateType n => "duplicate type definition '" ++ n ++ "'"
  | relationName t r p =>
    "relation name " ++ Text.quoted r ++ " on type '" ++ t ++ "' " ++ p.message
  | duplicateRelation t r => "duplicate relation '" ++ r ++ "' on type '" ++ t ++ "'"
  | inRule t r p => t ++ "#" ++ r ++ ": " ++ p.message

/-! ### Names -/

/-- The most characters that a name may have. -/
def maxNameLength : Nat := 254

/-- Whether a character separates the parts of a relationship. -/
def isDelimiter (c : Char) : Bool := c = ':' || c = '#' || c = '@'

/-- The first thing wrong with a name. -/
def nameProblem? (name : String) : Option NameProblem :=
  let cs := name.toList
  if cs.isEmpty then some .empty
  else if maxNameLength < cs.length then some .tooLong
  else if cs.any isDelimiter then some .delimiter
  else if cs.any Text.isBlank then some .blank
  else none

/-! ### References -/

namespace Model

/-- The names of the relations that references to a type see: those of its last definition. -/
def relationNamesOf? (m : Model) (type : String) : Option (List String) :=
  (m.types.reverse.find? (·.name == type)).map fun t => t.relations.map (·.name)

/-- Whether a reference to the type resolves. -/
def definesType (m : Model) (type : String) : Bool :=
  (m.relationNamesOf? type).isSome

/-- Whether a reference to the relation of the type resolves. -/
def defines (m : Model) (type relation : String) : Bool :=
  match m.relationNamesOf? type with
  | none => false
  | some names => names.contains relation

/-- Whether some type has the relation. -/
def definesSomewhere (m : Model) (relation : String) : Bool :=
  m.types.any fun t => m.defines t.name relation

/-- Whether a reference to the condition resolves. -/
def definesCondition (m : Model) (condition : String) : Bool :=
  m.conditions.any (·.name == condition)

end Model

/-- The problems of a subject. A subject of an undefined type is not looked at further. -/
def Subject.problems (m : Model) (s : Subject) : List RuleProblem :=
  if !m.definesType s.typeName then [.undefinedSubjectType s]
  else
    (match s.kind with
      | .userset r => if m.defines s.typeName r then [] else [.undefinedSubjectRelation s r]
      | _ => []) ++
    (match s.condition with
      | some c => if m.definesCondition c then [] else [.undefinedCondition s c]
      | none => [])

/-- The problems of a relation looked up through a tupleset of the type: the tupleset must be a
relation of the type, and one of the types assigned in it must have the relation. Where nothing is
assigned directly, any type will do. -/
def tuplesetProblems (m : Model) (type tupleset computed : String) : List RuleProblem :=
  match m.relationNamed? type tupleset with
  | none => [.undefinedTupleset tupleset]
  | some r =>
    let related := r.rule.subjects.map (·.typeName)
    let resolves :=
      if related.isEmpty then m.definesSomewhere computed
      else related.any (m.defines · computed)
    if resolves then [] else [.unresolved computed tupleset]

namespace Rule

mutual

/-- The problems of a rule of a relation of the type, from left to right. -/
def problems (m : Model) (type : String) : Rule → List RuleProblem
  | direct subjects =>
    (if subjects.isEmpty then [.noSubjects] else []) ++ subjects.flatMap (Subject.problems m)
  | computed relation => if m.defines type relation then [] else [.undefinedRelation relation]
  | fromTupleset tupleset relation => tuplesetProblems m type tupleset relation
  | union children =>
    (if children.isEmpty then [.noOperands] else []) ++ problemsOf m type children
  | intersection children =>
    (if children.isEmpty then [.noOperands] else []) ++ problemsOf m type children
  | difference base subtract => base.problems m type ++ subtract.problems m type

/-- The problems of several rules. -/
def problemsOf (m : Model) (type : String) : List Rule → List RuleProblem
  | [] => []
  | e :: es => e.problems m type ++ problemsOf m type es

end

end Rule

/-! ### Models -/

/-- The problems of the relations of a type, given the names of those before. -/
def relationProblems (m : Model) (type : String) (before : List String) :
    List Relation → List Problem
  | [] => []
  | r :: rest =>
    (match nameProblem? r.name with
      | some p => [Problem.relationName type r.name p]
      | none => []) ++
    (if before.contains r.name then [.duplicateRelation type r.name] else []) ++
    (r.rule.problems m type).map (.inRule type r.name) ++
    relationProblems m type (r.name :: before) rest

/-- The problems of the types of a model, given the names of those before. -/
def typeProblems (m : Model) (before : List String) : List TypeDefinition → List Problem
  | [] => []
  | t :: rest =>
    (match nameProblem? t.name with
      | some p => [Problem.typeName t.name p]
      | none => []) ++
    (if before.contains t.name then [.duplicateType t.name] else []) ++
    relationProblems m t.name [] t.relations ++
    typeProblems m (t.name :: before) rest

namespace Model

/-- Every problem of a model. -/
def problems (m : Model) : List Problem :=
  (match m.id with
    | some id => if id.toList.any Text.isControl then [.controlInId id] else []
    | none => []) ++
  (if m.schemaVersion.toList.any Text.isControl then
    [.controlInSchemaVersion m.schemaVersion] else []) ++
  typeProblems m [] m.types

end Model

end Relata
