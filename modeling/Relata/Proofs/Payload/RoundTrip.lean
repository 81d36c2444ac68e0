import Relata.Proofs.Json.Shape
import Relata.Proofs.Payload.Form
import Relata.Proofs.Payload.Userset

/-!
# Models read back from payloads

A model is read back from each text of its payload. The trees and the metadata are values at first;
each relation is then derived from its tree and the subjects that the metadata list under its name.

## Main definitions

* `Subject.read`, `TypeDefinition.read`, `Model.read` — what the readers of a payload make of it.
* `Relation.FitsPayload` — a relation that can be told from its tree and its metadata.

## Main results

* `Rule.reads_payload` — **a tree is read as the rule it was written for.**
* `Relation.FitsPayload.relationOfEntry_eq` — a relation is put together from a tree and metadata.
* `Model.ofText_payload` — **a model is read back from its payload.**
-/

namespace Relata

open Json (Value IsTextual Reads Fills Holds Reader Shape Node)
open UsersetPayload (rule_eq_ok)

/-! ### Subjects -/

/-- The relation of a subject, if it has one. -/
def SubjectKind.relation? : SubjectKind → Option String
  | userset relation => some relation
  | _ => none

/-- What stands for every object of a type. -/
def SubjectKind.wildcard? : SubjectKind → Option Value
  | wildcard => some (.object [])
  | _ => none

/-- A subject as it is read from the metadata. -/
def Subject.read (s : Subject) : SubjectPayload :=
  ⟨s.typeName, s.kind.relation?, s.kind.wildcard?, s.condition⟩

theorem nonEmpty?_eq {s : Option String} (h : s ≠ some "") : nonEmpty? s = s := by
  cases s with
  | none => rfl
  | some s =>
    have hne : s ≠ "" := fun hs => h (congrArg some hs)
    simp [nonEmpty?, hne]

theorem Subject.FitsPayload.subject_read {s : Subject} (h : s.FitsPayload) :
    s.read.subject = s := by
  obtain ⟨n, kind, condition⟩ := s
  obtain ⟨hkind, hcondition⟩ := h
  have hc : nonEmpty? condition = condition := nonEmpty?_eq hcondition
  cases kind with
  | object =>
    show (⟨n, .object, nonEmpty? condition⟩ : Subject) = _
    rw [hc]
  | userset relation =>
    have hr : nonEmpty? (some relation) = some relation := by
      apply nonEmpty?_eq
      intro h
      obtain rfl := Option.some.inj h
      exact hkind rfl
    simp only [Subject.read, SubjectPayload.subject, SubjectKind.relation?, SubjectKind.wildcard?,
      hr, hc]
    rfl
  | wildcard =>
    show (⟨n, .wildcard, nonEmpty? condition⟩ : Subject) = _
    rw [hc]

/-- The condition of a subject is read behind its other members. -/
theorem fills_condition (seen : List String) (p : SubjectPayload) (hseen : "condition" ∉ seen)
    (hp : p.condition = none) (condition : Option String) :
    ∃ seen', Fills SubjectPayload.shape.fields seen p (conditionMembers condition) seen'
        ⟨p.typeName, p.relation, p.wildcard, condition⟩ ∧ seen ⊆ seen' := by
  cases condition with
  | none =>
    obtain ⟨n, relation, wildcard, condition⟩ := p
    obtain rfl := hp
    exact ⟨seen, .nil, List.Subset.refl seen⟩
  | some c =>
    exact ⟨_, .cons rfl hseen (((Json.reads_text c).optional nofun).put _ _ _ _) .nil,
      List.subset_cons_self _ seen⟩

theorem reads_subject (s : Subject) : Reads SubjectPayload.shape.read s.payload s.read := by
  obtain ⟨n, kind, condition⟩ := s
  have htype := fun p => (Json.reads_text n).put "type" .required
    (fun (s : SubjectPayload) v => ⟨v, s.relation, s.wildcard, s.condition⟩) p
  -- the type comes first, and what a kind adds stands between it and the condition
  have hfills : ∃ seen, Fills SubjectPayload.shape.fields [] SubjectPayload.shape.blank
      (("type", .string n) :: (kind.members ++ conditionMembers condition)) seen
      (Subject.read ⟨n, kind, condition⟩) ∧ "type" ∈ seen := by
    cases kind with
    | object =>
      obtain ⟨seen, hc, hsub⟩ := fills_condition ["type"] ⟨n, none, none, none⟩ (by decide) rfl
        condition
      exact ⟨seen, .cons rfl (by decide) (htype _) hc, hsub (by decide)⟩
    | userset relation =>
      have hrelation := (Json.reads_text relation).optional nofun
      obtain ⟨seen, hc, hsub⟩ := fills_condition ["relation", "type"]
        ⟨n, some relation, none, none⟩ (by decide) rfl condition
      exact ⟨seen, .cons rfl (by decide) (htype _) (.cons rfl (by decide)
        (hrelation.put _ _ _ _) hc), hsub (by decide)⟩
    | wildcard =>
      have hwildcard := (Json.reads_tree isTextual_empty.hasDistinctNames).optional nofun
      obtain ⟨seen, hc, hsub⟩ := fills_condition ["wildcard", "type"]
        ⟨n, none, some (.object []), none⟩ (by decide) rfl condition
      exact ⟨seen, .cons rfl (by decide) (htype _) (.cons rfl (by decide)
        (hwildcard.put _ _ _ _) hc), hsub (by decide)⟩
  obtain ⟨seen, hfills, hseen⟩ := hfills
  refine hfills.reads ?_
  simp [Shape.missing?, SubjectPayload.shape, Json.field, hseen]

/-- The metadata of a relation give the subjects in their order. -/
theorem reads_relationMetadata (r : Relation) :
    Reads relationMetadataShape.read r.metadata (r.rule.assigned.map Subject.read) := by
  have hsubjects : Reads (Reader.list SubjectPayload.shape.read)
      (.array (r.rule.assigned.map Subject.payload)) (r.rule.assigned.map Subject.read) := by
    apply Reads.list_map
    intro s _
    exact reads_subject s
  exact .single rfl (hsubjects.put _ _ _ _) rfl

/-! ### Rules -/

/-- A relation of an object is read as its name. -/
theorem reads_objectRelation (relation : String) :
    Reads objectRelationShape.read (Rule.relationPayload relation) relation :=
  .single rfl ((Json.reads_text relation).put _ _ _ _) rfl

theorem reads_tupleToUserset (tupleset relation : String) :
    Reads tupleToUsersetShape.read
      (.object [("tupleset", Rule.relationPayload tupleset),
        ("computedUserset", Rule.relationPayload relation)]) (tupleset, relation) := by
  have htupleset := reads_objectRelation tupleset
  have hrelation := reads_objectRelation relation
  exact Fills.reads (.cons rfl (by decide) (htupleset.put _ _ _ _)
    (.cons rfl (by decide) (hrelation.put _ _ _ _) .nil)) rfl

theorem reads_difference {reader : Reader UsersetPayload} {v v' : Value} {p p' : UsersetPayload}
    (h : Reads reader v p) (hv : v ≠ .null) (h' : Reads reader v' p') (hv' : v' ≠ .null) :
    Reads (UsersetPayload.differenceShape reader).read (.object [("base", v), ("subtract", v')])
      (some p, some p') :=
  Fills.reads (.cons rfl (by decide) ((h.optional hv).put _ _ _ _)
    (.cons rfl (by decide) ((h'.optional hv').put _ _ _ _) .nil)) rfl

section Trees

variable {subjects : List Subject}

theorem Rule.payload_ne_null (e : Rule) : e.payload ≠ .null := by
  cases e with
  | direct subjects => exact nofun
  | computed relation => exact nofun
  | fromTupleset tupleset relation => exact nofun
  | union children => exact nofun
  | intersection children => exact nofun
  | difference base subtract => exact nofun

/-- The operands of a set operation are read if each of them is. -/
theorem reads_operands {reader : Reader UsersetPayload} {es : List Rule}
    (h : ∀ e ∈ es, ∃ p, Reads reader e.payload p ∧ p.rule subjects = .ok e) :
    ∃ ps, Reads (UsersetPayload.operandsShape reader).read
        (.object [("child", .array (Rule.payloads es))]) ps ∧
      List.Forall₂ (fun p e => p.rule subjects = .ok e) ps es := by
  obtain ⟨ps, hps⟩ := exists_forall₂ h
  have hlist : List.Forall₂ (Reads reader) (es.map Rule.payload) ps :=
    List.forall₂_map_left_iff.mpr (hps.imp fun _ _ hp => hp.1)
  have hrules : List.Forall₂ (fun p e => p.rule subjects = .ok e) ps es :=
    List.Forall₂.flip (hps.imp fun _ _ hp => hp.2)
  rw [Rule.payloads_eq_map]
  exact ⟨ps, .single rfl ((Reads.list hlist).put _ _ _ _) rfl, hrules⟩

/-- An operand nests less deep than its set operation. -/
theorem Rule.depth_operand_lt {e : Rule} {es : List Rule} (he : e ∈ es) (name : String) :
    e.payload.depth <
      (Value.object [(name, .object [("child", .array (Rule.payloads es))])]).depth := by
  have harray : e.payload.depth < (Value.array (Rule.payloads es)).depth := by
    rw [Rule.payloads_eq_map]
    exact Value.depth_lt_array (List.mem_map_of_mem he)
  rw [Value.depth_single, Value.depth_single]
  omega

/-- The operands of a difference nest less deep than it. -/
theorem Rule.depth_difference_lt (base subtract : Rule) :
    base.payload.depth < (difference base subtract).payload.depth ∧
      subtract.payload.depth < (difference base subtract).payload.depth := by
  rw [payload, Value.depth_single]
  exact (Value.depth_lt_pair _ _ _ _).imp Nat.lt_succ_of_lt Nat.lt_succ_of_lt

/-- **A tree is read as the rule it was written for**, if its nodes fit a payload and all its direct
nodes list `subjects`. -/
theorem Rule.reads_payload {e : Rule}
    (h : ∀ n ∈ e.nodes, NodeFitsPayload n ∧ ∀ ss ∈ n.subjects?, ss = subjects) {fuel : Nat}
    (hfuel : e.payload.depth < fuel) :
    ∃ p, Reads (UsersetPayload.readerWithin fuel) e.payload p ∧ p.rule subjects = .ok e := by
  -- each node takes one unit of fuel, and its operands nest less deep than it
  induction e generalizing fuel with
  | direct ss =>
    obtain ⟨fuel, rfl⟩ : ∃ k, fuel = k + 1 := ⟨fuel - 1, by omega⟩
    obtain ⟨-, hsubjects⟩ := forall_nodes_direct.mp h
    obtain rfl := hsubjects ss rfl
    have hthis := (Json.reads_tree isTextual_empty.hasDistinctNames).optional nofun
    exact ⟨_, .single rfl (hthis.put _ _ _ _) rfl, rule_eq_ok.mpr (.this _)⟩
  | computed relation =>
    obtain ⟨fuel, rfl⟩ : ∃ k, fuel = k + 1 := ⟨fuel - 1, by omega⟩
    obtain ⟨hrelation, -⟩ := forall_nodes_computed.mp h
    have hcomputed := (reads_objectRelation relation).optional nofun
    exact ⟨_, .single rfl (hcomputed.put _ _ _ _) rfl, rule_eq_ok.mpr (.computed hrelation)⟩
  | fromTupleset tupleset relation =>
    obtain ⟨fuel, rfl⟩ : ∃ k, fuel = k + 1 := ⟨fuel - 1, by omega⟩
    obtain ⟨⟨htupleset, hrelation⟩, -⟩ := forall_nodes_fromTupleset.mp h
    have hpair := (reads_tupleToUserset tupleset relation).optional nofun
    exact ⟨_, .single rfl (hpair.put _ _ _ _) rfl,
      rule_eq_ok.mpr (.fromTupleset htupleset hrelation)⟩
  | union children ih =>
    obtain ⟨fuel, rfl⟩ : ∃ k, fuel = k + 1 := ⟨fuel - 1, by omega⟩
    obtain ⟨⟨hne, -⟩, hchildren⟩ := forall_nodes_union.mp h
    obtain ⟨ps, hps, hrules⟩ := reads_operands fun e he =>
      ih e he (hchildren e he) (Nat.lt_of_lt_of_le (depth_operand_lt he "union")
        (Nat.le_of_lt_succ hfuel))
    exact ⟨_, .single rfl ((hps.optional nofun).put _ _ _ _) rfl,
      rule_eq_ok.mpr (.union (ne_nil_of_forall₂ hrules hne) hrules)⟩
  | intersection children ih =>
    obtain ⟨fuel, rfl⟩ : ∃ k, fuel = k + 1 := ⟨fuel - 1, by omega⟩
    obtain ⟨⟨hne, -⟩, hchildren⟩ := forall_nodes_intersection.mp h
    obtain ⟨ps, hps, hrules⟩ := reads_operands fun e he =>
      ih e he (hchildren e he) (Nat.lt_of_lt_of_le (depth_operand_lt he "intersection")
        (Nat.le_of_lt_succ hfuel))
    exact ⟨_, .single rfl ((hps.optional nofun).put _ _ _ _) rfl,
      rule_eq_ok.mpr (.intersection (ne_nil_of_forall₂ hrules hne) hrules)⟩
  | difference base subtract ihb ihs =>
    obtain ⟨fuel, rfl⟩ : ∃ k, fuel = k + 1 := ⟨fuel - 1, by omega⟩
    obtain ⟨-, hbase, hsubtract⟩ := forall_nodes_difference.mp h
    obtain ⟨hbaseDepth, hsubtractDepth⟩ := depth_difference_lt base subtract
    have hbaseFuel : base.payload.depth < fuel := by omega
    have hsubtractFuel : subtract.payload.depth < fuel := by omega
    obtain ⟨p, hp, hrule⟩ := ihb hbase hbaseFuel
    obtain ⟨p', hp', hrule'⟩ := ihs hsubtract hsubtractFuel
    have hpair := (reads_difference hp base.payload_ne_null hp' subtract.payload_ne_null).optional
      nofun
    exact ⟨_, .single rfl (hpair.put _ _ _ _) rfl, rule_eq_ok.mpr (.difference hrule hrule')⟩

end Trees

/-! ### Values in memory -/

/-- What a reader reads wherever a value stands, it reads of the value in memory. -/
theorem ofValue_eq {α : Type} {reader : Reader α} {v : Value} {a : α}
    (h : Reads reader v a) : ofValue reader v = .ok a := by
  rw [ofValue, h (Node.ofValue v) (Json.holds_ofValue v)]
  rfl

section Lists

variable {α β ε : Type}

/-- Members that are each taken back to what they were written for give the list. -/
theorem mapM_map_eq {f : β → Except ε α} {g : α → β} {as : List α}
    (h : ∀ a ∈ as, f (g a) = .ok a) : (as.map g).mapM f = .ok as := by
  induction as with
  | nil => rfl
  | cons a as ih =>
    have htail := ih fun a' ha' => h a' (List.mem_cons_of_mem a ha')
    rw [List.map_cons, List.mapM_cons, h a List.mem_cons_self, htail]
    rfl

/-- A named value is found under its name if no two names are equal. -/
theorem lookup_map_eq {name : α → String} (f : α → β) {as : List α}
    (hnames : (as.map name).Nodup) {a : α} (ha : a ∈ as) :
    (as.map fun a => (name a, f a)).lookup (name a) = some (f a) := by
  induction as with
  | nil => contradiction
  | cons b as ih =>
    rw [List.map_cons, List.nodup_cons] at hnames
    rw [List.map_cons, List.lookup_cons]
    rcases List.mem_cons.mp ha with rfl | ha
    · rw [beq_self_eq_true]
    · have hne : name a ≠ name b := by
        intro heq
        exact hnames.1 (heq ▸ List.mem_map_of_mem ha)
      rw [beq_false_of_ne hne]
      exact ih hnames.2 ha

end Lists

/-! ### Types -/

/-- The subjects of a relation are found under its name. -/
theorem TypeDefinition.metadataSubjects_eq {t : TypeDefinition}
    (hnames : (t.relations.map (·.name)).Nodup) (context : String) {r : Relation}
    (hr : r ∈ t.relations) (hsubjects : ∀ s ∈ r.rule.assigned, s.FitsPayload) :
    metadataSubjects context r.name t.metadata = .ok r.rule.assigned := by
  have hread := ofValue_eq (reads_relationMetadata r)
  have hback : (r.rule.assigned.map Subject.read).map SubjectPayload.subject =
      r.rule.assigned := by
    rw [List.map_map]
    conv_rhs => rw [← List.map_id r.rule.assigned]
    apply List.map_congr_left
    intro s hs
    exact (hsubjects s hs).subject_read
  rw [metadataSubjects, metadata, lookup_map_eq Relation.metadata hnames hr]
  simp only [hread, Except.map, Except.mapError, hback]

/-- A relation whose tree and metadata say all there is in it, and whose tree does not nest too
deep. -/
structure Relation.FitsPayload (r : Relation) : Prop where
  nodes : ∀ n ∈ r.rule.nodes, NodeFitsPayload n
  subjects : r.rule.AgreesOnSubjects
  depth : r.rule.payload.depth ≤ Json.nestingLimit

namespace Relation.FitsPayload

variable {r : Relation}

/-- The subjects that the metadata list are those of a direct node. -/
theorem assigned (h : r.FitsPayload) : ∀ s ∈ r.rule.assigned, s.FitsPayload := by
  intro s hs
  have hlisted : r.rule.listed ≠ [] := by
    intro hnil
    rw [Rule.assigned, hnil] at hs
    contradiction
  obtain ⟨n, hn, hsubjects⟩ := List.mem_filterMap.mp (Rule.assigned_mem_listed hlisted)
  have hfits := h.nodes n hn
  cases n with
  | direct subjects =>
    obtain rfl := Option.some.inj hsubjects
    exact hfits s hs
  | _ => contradiction

/-- **A relation is put together** from its tree and the metadata of its type. -/
theorem relationOfEntry_eq (h : r.FitsPayload) {t : TypeDefinition}
    (hnames : (t.relations.map (·.name)).Nodup) (hr : r ∈ t.relations) :
    relationOfEntry t.name t.metadata r.name r.rule.payload = .ok r := by
  have hnodes : ∀ n ∈ r.rule.nodes,
      NodeFitsPayload n ∧ ∀ ss ∈ n.subjects?, ss = r.rule.assigned := by
    intro n hn
    refine ⟨h.nodes n hn, ?_⟩
    intro ss hss
    exact Rule.assigned_eq h.subjects (List.mem_filterMap.mpr ⟨n, hn, hss⟩)
  obtain ⟨p, hp, hrule⟩ := Rule.reads_payload hnodes (Nat.lt_succ_of_le h.depth)
  have hread := ofValue_eq hp
  have hsubjects := t.metadataSubjects_eq hnames (t.name ++ "#" ++ r.name) hr h.assigned
  rw [relationOfEntry, UsersetPayload.reader, hread, hsubjects]
  simp only [bind, Except.bind, Except.mapError, hrule]
  rfl

end Relation.FitsPayload

namespace TypeDefinition

/-- A type as it is read: its relations and what the metadata say about them stay values. -/
def read (t : TypeDefinition) : TypePayload := ⟨t.name, some t.trees, some (some t.metadata)⟩

variable {t : TypeDefinition}

theorem reads_payload (hnames : (t.relations.map (·.name)).Nodup) :
    Reads TypePayload.shape.read t.payload t.read := by
  obtain ⟨htrees, hmetadata⟩ := isTextual_relations hnames
  have hname := Json.reads_text t.name
  have hrelations := (Json.reads_entries htrees).optional nofun
  have hmembers := (Json.reads_members hmetadata).optional nofun
  have hinner : Reads metadataShape.read (.object [("relations", .object t.metadata)])
      (some t.metadata) :=
    .single rfl (hmembers.put _ _ _ _) rfl
  exact Fills.reads (.cons rfl (by decide) (hname.put _ _ _ _)
    (.cons rfl (by decide) (hrelations.put _ _ _ _)
      (.cons rfl (by decide) ((hinner.optional nofun).put _ _ _ _) .nil))) rfl

theorem definition_read (hnames : (t.relations.map (·.name)).Nodup)
    (h : ∀ r ∈ t.relations, r.FitsPayload) : t.read.definition = .ok t := by
  have hrelations : t.trees.mapM (fun e => relationOfEntry t.name t.metadata e.1 e.2) =
      .ok t.relations :=
    mapM_map_eq fun r hr => (h r hr).relationOfEntry_eq hnames hr
  show (do
    let relations ← t.trees.mapM fun e : String × Value =>
      relationOfEntry t.name t.metadata e.1 e.2
    return (⟨t.name, relations⟩ : TypeDefinition)) = _
  rw [hrelations]
  rfl

end TypeDefinition

/-! ### Conditions -/

namespace Condition

variable {c : Condition}

theorem reads_payload (h : (c.parameters.map Prod.fst).Nodup) :
    Reads ConditionPayload.shape.read c.payload ⟨c.expression, some c.entries⟩ := by
  have hexpression := Json.reads_text c.expression
  have hparameters := (Json.reads_members (isTextual_entries h)).optional nofun
  exact Fills.reads (.cons rfl (by decide) (hexpression.put _ _ _ _)
    (.cons rfl (by decide) (hparameters.put _ _ _ _) .nil)) rfl

/-- **A condition is put together** with its parameters in their order. -/
theorem conditionOfEntry_eq (h : (c.parameters.map Prod.fst).Nodup) :
    conditionOfEntry c.name c.payload = .ok c := by
  have hread := ofValue_eq (reads_payload h)
  have hparameters : c.entries.map (fun e => (e.1, parameterTypeOf e.2)) = c.parameters := by
    rw [entries, List.map_map]
    exact List.map_id c.parameters
  rw [conditionOfEntry, hread]
  show Except.ok (⟨c.name, c.expression, _⟩ : Condition) = _
  rw [Option.getD_some, hparameters]

end Condition

/-! ### Models -/

namespace Model

/-- A model as it is read. -/
def read (m : Model) : ModelPayload :=
  ⟨m.id, m.schemaVersion, m.types.map TypeDefinition.read, some m.entries⟩

/-- The trees of a model's relations nest less deep than its payload. -/
theorem depth_rule_lt {m : Model} {t : TypeDefinition} (ht : t ∈ m.types) {r : Relation}
    (hr : r ∈ t.relations) : r.rule.payload.depth < m.payload.depth := by
  have hmem : (r.name, r.rule.payload) ∈ t.trees :=
    List.mem_map_of_mem (f := fun r : Relation => (r.name, r.rule.payload)) hr
  have hrelation : r.rule.payload.depth < (Value.object t.trees).depth :=
    Value.depth_lt_object hmem
  have hmember : (Value.object t.trees).depth < t.payload.depth :=
    Value.depth_lt_object (m := ("relations", _)) (by simp)
  have htype : t.payload.depth < m.payload.depth := by
    refine Value.depth_lt_listed "type_definitions" ?_ (List.mem_map_of_mem ht)
    exact List.mem_append_right _ (List.mem_cons_of_mem _ List.mem_cons_self)
  omega

/-- A payload is not wrapped. -/
theorem get?_payload (m : Model) : m.payload.get? "authorization_model" = none := by
  obtain ⟨id, version, types, conditions⟩ := m
  cases id with
  | none => rfl
  | some id => rfl

namespace FitsPayload

variable {m : Model}

theorem reads_payload (h : m.FitsPayload) : Reads ModelPayload.shape.read m.payload m.read := by
  have hversion := Json.reads_text m.schemaVersion
  have htypes : Reads (Reader.list TypePayload.shape.read)
      (.array (m.types.map TypeDefinition.payload)) (m.types.map TypeDefinition.read) := by
    apply Reads.list_map
    intro t ht
    exact TypeDefinition.reads_payload (h.relationNames t ht)
  have hconditions := (Json.reads_entries h.isTextual_entries).optional nofun
  obtain ⟨id, version, types, conditions⟩ := m
  cases id with
  | none =>
    exact Fills.reads (.cons rfl (by decide) (hversion.put _ _ _ _)
      (.cons rfl (by decide) (htypes.put _ _ _ _)
        (.cons rfl (by decide) (hconditions.put _ _ _ _) .nil))) rfl
  | some id =>
    have hid := (Json.reads_text id).optional nofun
    exact Fills.reads (.cons rfl (by decide) (hid.put _ _ _ _)
      (.cons rfl (by decide) (hversion.put _ _ _ _)
        (.cons rfl (by decide) (htypes.put _ _ _ _)
          (.cons rfl (by decide) (hconditions.put _ _ _ _) .nil)))) rfl

theorem model_read (h : m.FitsPayload) (hdepth : m.payload.depth ≤ Json.nestingLimit) :
    m.read.model = .ok m := by
  have htypes : (m.types.map TypeDefinition.read).mapM TypePayload.definition = .ok m.types := by
    apply mapM_map_eq
    intro t ht
    apply TypeDefinition.definition_read (h.relationNames t ht)
    intro r hr
    have hlt := depth_rule_lt ht hr
    exact ⟨h.nodes t ht r hr, h.subjects t ht r hr, by omega⟩
  have hconditions : m.entries.mapM (fun e => conditionOfEntry e.1 e.2) = .ok m.conditions :=
    mapM_map_eq fun c hc => Condition.conditionOfEntry_eq (h.parameterNames c hc)
  show (do
    let types ← (m.types.map TypeDefinition.read).mapM TypePayload.definition
    let conditions ← m.entries.mapM fun e : String × Value => conditionOfEntry e.1 e.2
    return (⟨nonEmpty? m.id, m.schemaVersion, types, conditions⟩ : Model)) = _
  rw [htypes, hconditions, nonEmpty?_eq h.id]
  rfl

/-- The payload is read from each of its texts. -/
theorem ofText_eq (h : m.FitsPayload) (hdepth : m.payload.depth ≤ Json.nestingLimit)
    {text : String} (htext : Json.DocumentText m.payload text.toList) :
    ModelPayload.ofText text = .ok m.read := by
  obtain ⟨n, hread, hn⟩ := htext.read h.isTextual hdepth
  have hvalue : (Json.Document.read text.toList).value = .ok m.payload := by
    rw [hread, Json.Document.value, Json.Document.run_eq, h.isTextual.hasDistinctNames.value_eq hn]
  have hrun : (Json.Document.read text.toList).run ModelPayload.shape.read = .ok m.read := by
    rw [hread, Json.Document.run_eq, h.reads_payload n hn]
  rw [ModelPayload.ofText, hvalue]
  simp only [get?_payload, Option.isSome_none, Bool.false_eq_true, if_false, hrun]
  rfl

end FitsPayload

/-- **A model is read back from its payload.** The written text is a text of the payload, and from
each text of it the model is read back, whatever stands between the tokens. -/
theorem ofText_payload {m : Model} (h : m.FitsPayload)
    (hdepth : m.payload.depth ≤ Json.nestingLimit) :
    Json.DocumentText m.payload m.payload.render.toList ∧
      ∀ text : String, Json.DocumentText m.payload text.toList →
        ∃ p, ModelPayload.ofText text = .ok p ∧ p.model = .ok m := by
  constructor
  · have htext := Json.DocumentText.mk Json.between_nil h.isTextual.valueText Json.between_nil
    rw [List.append_nil, List.nil_append] at htext
    rwa [Value.render, String.toList_ofList]
  · intro text htext
    exact ⟨m.read, h.ofText_eq hdepth htext, h.model_read hdepth⟩

/-- Documents with every kind of subject and of node. -/
def sharedDocuments : Model where
  id := some "01"
  schemaVersion := "1.1"
  types := [⟨"user", []⟩,
    ⟨"doc", [⟨"parent", .direct [⟨"doc", .object, none⟩]⟩,
      ⟨"banned", .direct [⟨"user", .object, some "late"⟩]⟩,
      ⟨"viewer", .difference
        (.union [.direct [⟨"user", .wildcard, none⟩, ⟨"doc", .userset "viewer", none⟩],
          .fromTupleset "parent" "viewer"])
        (.intersection [.computed "banned"])⟩]⟩]
  conditions := [⟨"late", "now > end", [("now", "timestamp"), ("end", "timestamp")]⟩]

theorem ofText_sharedDocuments :
    sharedDocuments.FitsPayload ∧ sharedDocuments.payload.depth ≤ Json.nestingLimit ∧
      ∃ p, ModelPayload.ofText sharedDocuments.payload.render = .ok p ∧
        p.model = .ok sharedDocuments := by
  have hfits : sharedDocuments.FitsPayload :=
    ⟨by decide, by decide, by decide, by decide, by decide, by decide⟩
  have hdepth : sharedDocuments.payload.depth ≤ Json.nestingLimit := by decide
  obtain ⟨hwritten, hread⟩ := ofText_payload hfits hdepth
  exact ⟨hfits, hdepth, hread _ hwritten⟩

end Model

end Relata
