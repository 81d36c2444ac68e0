import Relata.Payload.Conversion
import Relata.Proofs.Json.Document
import Relata.Proofs.Rule

/-!
# The payload of a model

How a model is written as a payload. A tree lists the subjects of a direct node in no place of its
own: they stand in the metadata of the type, once for the whole relation.

## Main definitions

* `Rule.payload`, `TypeDefinition.payload`, `Condition.payload`, `Model.payload` — the written form.
* `Rule.assigned` — the subjects that the metadata list for a relation.
* `Model.FitsPayload` — the models whose payload says all there is in them.

## Main results

* `Rule.assigned_eq` — the subjects of every direct node.
* `Model.FitsPayload.isTextual` — the payload is a value of strings, lists and objects.
-/

namespace Relata

open Json (Value IsTextual)

/-! ### Subjects -/

/-- The members of a subject that say what of its type is meant. -/
def SubjectKind.members : SubjectKind → List (String × Value)
  | object => []
  | userset relation => [("relation", .string relation)]
  | wildcard => [("wildcard", .object [])]

/-- The member of a subject for its condition. -/
def conditionMembers : Option String → List (String × Value)
  | none => []
  | some c => [("condition", .string c)]

/-- A subject as the metadata list it. -/
def Subject.payload (s : Subject) : Value :=
  .object (("type", .string s.typeName) :: (s.kind.members ++ conditionMembers s.condition))

/-! ### Rules -/

namespace Rule

/-- A relation of an object. -/
def relationPayload (relation : String) : Value := .object [("relation", .string relation)]

mutual

/-- A rule as a tree. -/
def payload : Rule → Value
  | direct _ => .object [("this", .object [])]
  | computed relation => .object [("computedUserset", relationPayload relation)]
  | fromTupleset tupleset relation =>
    .object [("tupleToUserset", .object [("tupleset", relationPayload tupleset),
      ("computedUserset", relationPayload relation)])]
  | union children => .object [("union", .object [("child", .array (payloads children))])]
  | intersection children =>
    .object [("intersection", .object [("child", .array (payloads children))])]
  | difference base subtract =>
    .object [("difference", .object [("base", base.payload), ("subtract", subtract.payload)])]

/-- Several rules as trees. -/
def payloads : List Rule → List Value
  | [] => []
  | e :: es => e.payload :: payloads es

end

theorem payloads_eq_map (es : List Rule) : payloads es = es.map payload := by
  induction es with
  | nil => rfl
  | cons e es ih => rw [payloads, ih, List.map_cons]

/-- The subjects of a direct node. -/
def subjects? : Rule → Option (List Subject)
  | direct subjects => some subjects
  | _ => none

/-- The subjects of each direct node. -/
def listed (e : Rule) : List (List Subject) := e.nodes.filterMap subjects?

/-- The subjects that may be assigned, those of the first direct node. -/
def assigned (e : Rule) : List Subject := e.listed.head?.getD []

/-- All direct nodes of a rule list the same subjects. -/
def AgreesOnSubjects (e : Rule) : Prop :=
  ∀ subjects ∈ e.listed, ∀ subjects' ∈ e.listed, subjects = subjects'

instance (e : Rule) : Decidable e.AgreesOnSubjects :=
  inferInstanceAs (Decidable (∀ subjects ∈ e.listed, ∀ subjects' ∈ e.listed, subjects = subjects'))

/-- If there is a direct node, what may be assigned are the subjects of one. -/
theorem assigned_mem_listed {e : Rule} (h : e.listed ≠ []) : e.assigned ∈ e.listed := by
  rw [assigned, List.head?_eq_some_head h, Option.getD_some]
  exact List.head_mem h

/-- The subjects of every direct node are those that may be assigned. -/
theorem assigned_eq {e : Rule} (h : e.AgreesOnSubjects) {subjects : List Subject}
    (hmem : subjects ∈ e.listed) : subjects = e.assigned :=
  h subjects hmem e.assigned (assigned_mem_listed (List.ne_nil_of_mem hmem))

end Rule

/-! ### Models -/

/-- What the metadata say about a relation. -/
def Relation.metadata (r : Relation) : Value :=
  .object [("directly_related_user_types", .array (r.rule.assigned.map Subject.payload))]

namespace TypeDefinition

/-- The trees of a type's relations. -/
def trees (t : TypeDefinition) : Entries := t.relations.map fun r => (r.name, r.rule.payload)

/-- What the metadata say about the relations of a type. -/
def metadata (t : TypeDefinition) : Entries := t.relations.map fun r => (r.name, r.metadata)

/-- A type with its relations and what the metadata say about them. -/
def payload (t : TypeDefinition) : Value :=
  .object [("type", .string t.name), ("relations", .object t.trees),
    ("metadata", .object [("relations", .object t.metadata)])]

end TypeDefinition

/-- The type of a parameter. -/
def parameterPayload (type : String) : Value := .object [("type_name", .string type)]

namespace Condition

/-- The parameters of a condition. -/
def entries (c : Condition) : Entries := c.parameters.map fun p => (p.1, parameterPayload p.2)

/-- A condition with its parameters. -/
def payload (c : Condition) : Value :=
  .object [("expression", .string c.expression), ("parameters", .object c.entries)]

end Condition

namespace Model

/-- The member of a model for its id. -/
def idMembers : Option String → List (String × Value)
  | none => []
  | some id => [("id", .string id)]

/-- The conditions of a model. -/
def entries (m : Model) : Entries := m.conditions.map fun c => (c.name, c.payload)

/-- A model as a payload. -/
def payload (m : Model) : Value :=
  .object (idMembers m.id ++
    [("schema_version", .string m.schemaVersion),
      ("type_definitions", .array (m.types.map TypeDefinition.payload)),
      ("conditions", .object m.entries)])

end Model

/-! ### What a payload says -/

/-- A subject whose relation and condition are not empty. -/
def Subject.FitsPayload (s : Subject) : Prop := s.kind ≠ .userset "" ∧ s.condition ≠ some ""

instance (s : Subject) : Decidable s.FitsPayload :=
  inferInstanceAs (Decidable (s.kind ≠ .userset "" ∧ s.condition ≠ some ""))

/-- A node with operands, if it is a set operation, and without empty names of relations. -/
def NodeFitsPayload : Rule → Prop
  | .direct subjects => ∀ s ∈ subjects, s.FitsPayload
  | .computed relation => relation ≠ ""
  | .fromTupleset tupleset relation => tupleset ≠ "" ∧ relation ≠ ""
  | .union children => children ≠ []
  | .intersection children => children ≠ []
  | .difference _ _ => True

instance : DecidablePred NodeFitsPayload
  | .direct subjects => inferInstanceAs (Decidable (∀ s ∈ subjects, s.FitsPayload))
  | .computed relation => inferInstanceAs (Decidable (relation ≠ ""))
  | .fromTupleset tupleset relation =>
    inferInstanceAs (Decidable (tupleset ≠ "" ∧ relation ≠ ""))
  | .union children => inferInstanceAs (Decidable (children ≠ []))
  | .intersection children => inferInstanceAs (Decidable (children ≠ []))
  | .difference _ _ => inferInstanceAs (Decidable True)

/-- A model whose payload says all there is in it: nothing in it is empty that a payload takes for
absent, no name is given twice in one place, and the direct nodes of a relation agree. -/
structure Model.FitsPayload (m : Model) : Prop where
  id : m.id ≠ some ""
  relationNames : ∀ t ∈ m.types, (t.relations.map (·.name)).Nodup
  conditionNames : (m.conditions.map (·.name)).Nodup
  parameterNames : ∀ c ∈ m.conditions, (c.parameters.map Prod.fst).Nodup
  nodes : ∀ t ∈ m.types, ∀ r ∈ t.relations, ∀ n ∈ r.rule.nodes, NodeFitsPayload n
  subjects : ∀ t ∈ m.types, ∀ r ∈ t.relations, r.rule.AgreesOnSubjects

/-! ### Values of payloads -/

section Textual

/-- An object of named values, no name twice. -/
theorem isTextual_map {α : Type} {as : List α} {name : α → String} {value : α → Value}
    (hnames : (as.map name).Nodup) (h : ∀ a ∈ as, IsTextual (value a)) :
    IsTextual (.object (as.map fun a => (name a, value a))) := by
  refine .object ?_ ?_
  · rwa [List.map_map]
  · intro m hm
    obtain ⟨a, ha, rfl⟩ := List.mem_map.mp hm
    exact h a ha

theorem isTextual_array {α : Type} {as : List α} {value : α → Value}
    (h : ∀ a ∈ as, IsTextual (value a)) : IsTextual (.array (as.map value)) := by
  refine .array ?_
  intro v hv
  obtain ⟨a, ha, rfl⟩ := List.mem_map.mp hv
  exact h a ha

/-- An object with one member. -/
theorem isTextual_single {name : String} {v : Value} (hv : IsTextual v) :
    IsTextual (.object [(name, v)]) :=
  .object (by simp) (by simpa using hv)

theorem isTextual_empty : IsTextual (.object []) := .object (by simp) (by simp)

theorem Subject.isTextual_payload (s : Subject) : IsTextual s.payload := by
  obtain ⟨n, kind, condition⟩ := s
  refine .object ?_ ?_
  · cases kind <;> cases condition <;> simp [SubjectKind.members, conditionMembers]
  · intro m hm
    rcases List.mem_cons.mp hm with rfl | hm
    · exact .string n
    rcases List.mem_append.mp hm with hm | hm
    · cases kind with
      | object => contradiction
      | userset relation =>
        obtain rfl := List.mem_singleton.mp hm
        exact .string relation
      | wildcard =>
        obtain rfl := List.mem_singleton.mp hm
        exact isTextual_empty
    · cases condition with
      | none => contradiction
      | some c =>
        obtain rfl := List.mem_singleton.mp hm
        exact .string c

theorem Rule.isTextual_payload (e : Rule) : IsTextual e.payload := by
  have hrelation : ∀ relation, IsTextual (relationPayload relation) :=
    fun relation => isTextual_single (.string relation)
  induction e with
  | direct subjects => exact isTextual_single isTextual_empty
  | computed relation => exact isTextual_single (hrelation relation)
  | fromTupleset tupleset relation =>
    refine isTextual_single (.object (by simp) ?_)
    simp only [List.mem_cons, List.not_mem_nil, or_false, forall_eq_or_imp, forall_eq]
    exact ⟨hrelation tupleset, hrelation relation⟩
  | union children ih =>
    rw [payload, payloads_eq_map]
    exact isTextual_single (isTextual_single (isTextual_array ih))
  | intersection children ih =>
    rw [payload, payloads_eq_map]
    exact isTextual_single (isTextual_single (isTextual_array ih))
  | difference base subtract ihb ihs =>
    refine isTextual_single (.object (by simp) ?_)
    simp only [List.mem_cons, List.not_mem_nil, or_false, forall_eq_or_imp, forall_eq]
    exact ⟨ihb, ihs⟩

theorem Relation.isTextual_metadata (r : Relation) : IsTextual r.metadata :=
  isTextual_single (isTextual_array fun s _ => s.isTextual_payload)

/-- The relations of a type, as trees and in the metadata. -/
theorem TypeDefinition.isTextual_relations {t : TypeDefinition}
    (h : (t.relations.map (·.name)).Nodup) :
    IsTextual (.object t.trees) ∧ IsTextual (.object t.metadata) :=
  ⟨isTextual_map h fun r _ => r.rule.isTextual_payload,
    isTextual_map h fun r _ => r.isTextual_metadata⟩

theorem TypeDefinition.isTextual_payload {t : TypeDefinition}
    (h : (t.relations.map (·.name)).Nodup) : IsTextual t.payload := by
  obtain ⟨hrelations, hmetadata⟩ := isTextual_relations h
  refine .object (by simp) ?_
  simp only [List.mem_cons, List.not_mem_nil, or_false, forall_eq_or_imp, forall_eq]
  exact ⟨.string t.name, hrelations, isTextual_single hmetadata⟩

theorem Condition.isTextual_entries {c : Condition} (h : (c.parameters.map Prod.fst).Nodup) :
    IsTextual (.object c.entries) :=
  isTextual_map h fun p _ => isTextual_single (.string p.2)

theorem Condition.isTextual_payload {c : Condition} (h : (c.parameters.map Prod.fst).Nodup) :
    IsTextual c.payload := by
  refine .object (by simp) ?_
  simp only [List.mem_cons, List.not_mem_nil, or_false, forall_eq_or_imp, forall_eq]
  exact ⟨.string c.expression, isTextual_entries h⟩

namespace Model.FitsPayload

variable {m : Model}

theorem isTextual_entries (h : m.FitsPayload) : IsTextual (.object m.entries) :=
  isTextual_map h.conditionNames fun c hc => Condition.isTextual_payload (h.parameterNames c hc)

/-- The payload is a value of strings, lists and objects. -/
theorem isTextual (h : m.FitsPayload) : IsTextual m.payload := by
  have htypes : IsTextual (.array (m.types.map TypeDefinition.payload)) :=
    isTextual_array fun t ht => TypeDefinition.isTextual_payload (h.relationNames t ht)
  refine .object ?_ ?_
  · cases m.id <;> simp [idMembers]
  · intro x hx
    rcases List.mem_append.mp hx with hx | hx
    · cases hid : m.id with
      | none =>
        rw [hid] at hx
        contradiction
      | some id =>
        rw [hid] at hx
        obtain rfl := List.mem_singleton.mp hx
        exact .string id
    · simp only [List.mem_cons, List.not_mem_nil, or_false] at hx
      rcases hx with rfl | rfl | rfl
      · exact .string m.schemaVersion
      · exact htypes
      · exact h.isTextual_entries

end Model.FitsPayload

end Textual

end Relata
