import Relata.Payload.Basic

/-!
# Models from payloads

The model that a payload describes. Nothing is looked up here; references are resolved when the
model is validated.

## Main definitions

* `PayloadProblem` — why a payload describes no model, and the wording.
* `UsersetPayload.rule` — the rule that a tree describes.
* `ModelPayload.model` — the model that a payload describes.
-/

namespace Relata

open Json (Value Reader Shape Node)

/-- Why a tree describes no rule. -/
inductive UsersetProblem
  /-- A node has no member, or more than one. -/
  | memberCount (found : Nat)
  | computedWithoutRelation
  | tupleToUsersetIncomplete
  | noChild (operator : String)
  | differenceIncomplete
  deriving DecidableEq, Repr, Inhabited

/-- The wording of a tree's problem. -/
def UsersetProblem.message : UsersetProblem → String
  | memberCount found =>
    "expression node must have exactly one of this, computedUserset, tupleToUserset, union, " ++
      "intersection, difference (found " ++ toString found ++ ")"
  | computedWithoutRelation => "computedUserset is missing a relation"
  | tupleToUsersetIncomplete =>
    "tupleToUserset requires both tupleset and computedUserset relations"
  | noChild operator => operator ++ " must have at least one child"
  | differenceIncomplete => "difference requires both base and subtract"

/-- Why a payload describes no model. The context names a relation as `type#relation`. -/
inductive PayloadProblem
  | relation (context : String) (fault : Json.Fault)
  | metadata (context : String) (fault : Json.Fault)
  | userset (context : String) (problem : UsersetProblem)
  | condition (name : String) (fault : Json.Fault)
  deriving DecidableEq, Repr, Inhabited

/-- The wording of a payload's problem. -/
def PayloadProblem.message : PayloadProblem → String
  | relation context fault => context ++ ": unrecognized relation expression: " ++ fault.message
  | metadata context fault => context ++ ": invalid relation metadata: " ++ fault.message
  | userset context problem => context ++ ": " ++ problem.message
  | condition name fault => "condition '" ++ name ++ "' is invalid: " ++ fault.message

/-- Reads a value in memory. -/
def ofValue {α : Type} (reader : Reader α) (v : Value) : Except Json.Fault α :=
  (reader (Node.ofValue v)).mapError (·.fault)

/-! ### Rules -/

/-- An optional text, none if it is empty. -/
def nonEmpty? (s : Option String) : Option String := s.filter (· != "")

/-- The subject that an entry of the metadata describes. A wildcard wins over a relation. -/
def SubjectPayload.subject (p : SubjectPayload) : Subject :=
  let kind : SubjectKind :=
    if p.wildcard.isSome then .wildcard
    else match nonEmpty? p.relation with
      | some r => .userset r
      | none => .object
  ⟨p.typeName, kind, nonEmpty? p.condition⟩

namespace UsersetPayload

/-- How many members a node has. -/
def memberCount : UsersetPayload → Nat
  | .mk this computed tuple union intersection difference =>
    [this.isSome, computed.isSome, tuple.isSome, union.isSome, intersection.isSome,
      difference.isSome].count true

mutual

/-- The rule that a tree describes. Every `this` stands for the given subjects. -/
def rule (subjects : List Subject) : UsersetPayload → Except UsersetProblem Rule
  | .mk this computed tuple union intersection difference =>
    let n := memberCount (.mk this computed tuple union intersection difference)
    if n ≠ 1 then .error (.memberCount n)
    else match this, computed, tuple, union, intersection, difference with
      | some _, _, _, _, _, _ => .ok (.direct subjects)
      | _, some relation, _, _, _, _ =>
        if relation = "" then .error .computedWithoutRelation else .ok (.computed relation)
      | _, _, some (tupleset, relation), _, _, _ =>
        if tupleset = "" || relation = "" then .error .tupleToUsersetIncomplete
        else .ok (.fromTupleset tupleset relation)
      | _, _, _, some children, _, _ =>
        if children.isEmpty then .error (.noChild "union")
        else .union <$> rules subjects children
      | _, _, _, _, some children, _ =>
        if children.isEmpty then .error (.noChild "intersection")
        else .intersection <$> rules subjects children
      | _, _, _, _, _, some (some base, some subtract) => do
        return .difference (← base.rule subjects) (← subtract.rule subjects)
      | _, _, _, _, _, _ => .error .differenceIncomplete

/-- The rules that several trees describe. -/
def rules (subjects : List Subject) : List UsersetPayload → Except UsersetProblem (List Rule)
  | [] => .ok []
  | p :: ps => do
    let e ← p.rule subjects
    return e :: (← rules subjects ps)

end

end UsersetPayload

/-! ### Definitions -/

/-- The subjects that the metadata of a type list for a relation. -/
def metadataSubjects (context name : String) (metadata : Entries) :
    Except PayloadProblem (List Subject) :=
  match metadata.lookup name with
  | none => .ok []
  | some v => (ofValue relationMetadataShape.read v).map (·.map SubjectPayload.subject)
    |>.mapError (.metadata context)

/-- The relation that a member of a type's `relations` describes. -/
def relationOfEntry (type : String) (metadata : Entries) (name : String) (v : Value) :
    Except PayloadProblem Relation := do
  let context := type ++ "#" ++ name
  let tree ← (ofValue UsersetPayload.reader v).mapError (.relation context)
  let subjects ← metadataSubjects context name metadata
  let rule ← (tree.rule subjects).mapError (.userset context)
  return ⟨name, rule⟩

/-- The type that a payload describes. -/
def TypePayload.definition (p : TypePayload) : Except PayloadProblem TypeDefinition := do
  let metadata := (p.metadata.bind id).getD []
  let relations ← (p.relations.getD []).mapM fun (name, v) =>
    relationOfEntry p.name metadata name v
  return ⟨p.name, relations⟩

/-- The type of a parameter whose payload names none. -/
def unspecifiedType : String := "TYPE_NAME_UNSPECIFIED"

/-- The text of a parameter's type. -/
def parameterTypeOf (v : Value) : String :=
  ((v.get? "type_name").bind Value.text?).getD unspecifiedType

/-- The condition that a member of `conditions` describes. -/
def conditionOfEntry (name : String) (v : Value) : Except PayloadProblem Condition := do
  let p ← (ofValue ConditionPayload.shape.read v).mapError (.condition name)
  return ⟨name, p.expression, (p.parameters.getD []).map fun (name, v) => (name, parameterTypeOf v)⟩

/-- The model that a payload describes. An empty id is none. -/
def ModelPayload.model (p : ModelPayload) : Except PayloadProblem Model := do
  let types ← p.types.mapM TypePayload.definition
  let conditions ← (p.conditions.getD []).mapM fun (name, v) => conditionOfEntry name v
  return ⟨nonEmpty? p.id, p.schemaVersion, types, conditions⟩

end Relata
