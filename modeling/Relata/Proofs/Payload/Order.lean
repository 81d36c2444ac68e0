import Relata.Proofs.Distinct
import Relata.Proofs.Json.Memory
import Relata.Proofs.Payload.Userset

/-!
# The definitions of a payload

A model has the definitions that the text of its payload holds: one type for each element of the
list of types, one relation for each member of a type's relations, one condition for each member of
the conditions, all in the order of the text. Their names may not repeat, and a text that repeats
one is refused. The metadata of relations, in which names may repeat, are read from memory: of the
entries for one relation the last one lists its subjects.

## Main definitions

* `modelForms`, `modelForm` — what a text holds for the model, bare or wrapped.
* `RepeatsDefinition` — a relation or a condition is defined twice in one place.
* `subjectOf?`, `listedForms` — the subjects that the metadata list for a relation.
* `IsRelationOf`, `IsTypeOf`, `IsModelOf` — what a text defines.

## Main results

* `forall₂_listedForms` — the subjects of a relation are those that its last entry lists.
* `ModelPayload.model_isModelOf` — **a model has the definitions of its payload, in order.**
* `ModelPayload.not_repeatsName_of_read` — no definition of a payload that is read repeats.
* `ModelPayload.definitions_of_ofText` — **both, for every text of a payload.**
-/

namespace Relata

open Json (Form Shows FormDocument Node Value Reader IsMember ReadFrom Leaves Document
  leavesAlone_field)

/-! ### Definitions in a text -/

/-- What a text holds for the model: its members `authorization_model`, or all of it if there is no
such member. -/
def modelForms (f : Form) : List Form :=
  if (f.entries "authorization_model").isEmpty then [f] else f.entries "authorization_model"

/-- What a text holds for the model. -/
def modelForm (f : Form) : Form := Form.last (modelForms f)

/-- An object with two members of one name. -/
def RepeatsName (f : Form) : Prop := ¬ (f.members.map Prod.fst).Nodup

instance (f : Form) : Decidable (RepeatsName f) :=
  inferInstanceAs (Decidable (¬ (f.members.map Prod.fst).Nodup))

/-- The conditions of a model repeat a name, or the relations of one of its types do. -/
def RepeatsDefinition (f : Form) : Prop :=
  ∃ g ∈ modelForms f,
    (∃ conditions ∈ g.parts "conditions" 3, RepeatsName conditions) ∨
      ∃ types ∈ g.parts "type_definitions" 2, ∃ t ∈ types.elements,
        ∃ relations ∈ t.parts "relations" 1, RepeatsName relations

/-- What of its type an entry of the metadata means. -/
def kindOf (f : Form) : SubjectKind :=
  if (f.part "wildcard" 2).isNull then
    match nonEmpty? (f.part "relation" 1).text? with
    | some relation => .userset relation
    | none => .object
  else .wildcard

/-- The subject that an entry of the metadata means. -/
def subjectOf? (f : Form) : Option Subject :=
  (f.part "type" 0).text?.map fun type =>
    ⟨type, kindOf f, nonEmpty? (f.part "condition" 3).text?⟩

/-- The last entry for a relation in the metadata of a type. -/
def metadataForm (t : Form) (relation : String) : Form :=
  ((t.part "metadata" 2).part "relations" 0).entry relation

/-- What the metadata of a type list for a relation. -/
def listedForms (t : Form) (relation : String) : List Form :=
  ((metadataForm t relation).part "directly_related_user_types" 0).elements

/-- A relation has the name of its member, and its direct nodes have the subjects that the metadata
of the type list for it. -/
def IsRelationOf (t : Form) (m : Option String × Form) (r : Relation) : Prop :=
  m.1 = some r.name ∧ ∀ subjects, .direct subjects ∈ r.rule.nodes →
    List.Forall₂ (fun f s => subjectOf? f = some s) (listedForms t r.name) subjects

/-- A type has the name of its text and one relation for each member of its relations, in order. -/
structure IsTypeOf (t : Form) (d : TypeDefinition) : Prop where
  name : (t.part "type" 0).text? = some d.name
  relations : List.Forall₂ (IsRelationOf t) (t.part "relations" 1).members d.relations

/-- A model has one type for each element of the list of types and one condition for each member of
the conditions, in order. -/
structure IsModelOf (f : Form) (m : Model) : Prop where
  types : List.Forall₂ IsTypeOf (f.part "type_definitions" 2).elements m.types
  conditions : List.Forall₂ (fun c d => c.1 = some d.name) (f.part "conditions" 3).members
    m.conditions

/-! ### Members of the records -/

section Members

theorem isMember_wrapped :
    IsMember wrappedShape "authorization_model" 0 .required ModelPayload.shape.read id :=
  .mk [] [] rfl rfl (fun _ _ => rfl) nofun

theorem isMember_metadataRelations :
    IsMember metadataShape "relations" 0 .defaulted (Reader.optional Reader.members) id :=
  .mk [] [] rfl rfl (fun _ _ => rfl) nofun

theorem isMember_directTypes : IsMember relationMetadataShape "directly_related_user_types" 0
    .defaulted (Reader.list SubjectPayload.shape.read) id :=
  .mk [] [] rfl rfl (fun _ _ => rfl) nofun

namespace ModelPayload

theorem isMember_types : IsMember shape "type_definitions" 2 .defaulted
    (Reader.list TypePayload.shape.read) types :=
  .mk [_, _] [_] rfl rfl (fun _ _ => rfl) (by simp [leavesAlone_field])

theorem isMember_conditions : IsMember shape "conditions" 3 .defaulted
    (Reader.optional (Reader.entries Reader.tree)) conditions :=
  .mk [_, _, _] [] rfl rfl (fun _ _ => rfl) (by simp [leavesAlone_field])

end ModelPayload

namespace TypePayload

theorem isMember_name : IsMember shape "type" 0 .required Reader.text name :=
  .mk [] [_, _] rfl rfl (fun _ _ => rfl) (by simp [leavesAlone_field])

theorem isMember_relations : IsMember shape "relations" 1 .defaulted
    (Reader.optional (Reader.entries Reader.tree)) relations :=
  .mk [_] [_] rfl rfl (fun _ _ => rfl) (by simp [leavesAlone_field])

theorem isMember_metadata : IsMember shape "metadata" 2 .defaulted
    (Reader.optional metadataShape.read) metadata :=
  .mk [_, _] [] rfl rfl (fun _ _ => rfl) (by simp [leavesAlone_field])

end TypePayload

namespace SubjectPayload

theorem isMember_typeName : IsMember shape "type" 0 .required Reader.text typeName :=
  .mk [] [_, _, _] rfl rfl (fun _ _ => rfl) (by simp [leavesAlone_field])

theorem isMember_relation : IsMember shape "relation" 1 .defaulted
    (Reader.optional Reader.text) relation :=
  .mk [_] [_, _] rfl rfl (fun _ _ => rfl) (by simp [leavesAlone_field])

theorem isMember_wildcard : IsMember shape "wildcard" 2 .defaulted
    (Reader.optional Reader.tree) wildcard :=
  .mk [_, _] [_] rfl rfl (fun _ _ => rfl) (by simp [leavesAlone_field])

theorem isMember_condition : IsMember shape "condition" 3 .defaulted
    (Reader.optional Reader.text) condition :=
  .mk [_, _, _] [] rfl rfl (fun _ _ => rfl) (by simp [leavesAlone_field])

end SubjectPayload

end Members

/-! ### Subjects -/

section Subjects

variable {f g : Form} {n : Node}

theorem kindOf_eq_of_leaves (h : Leaves f g) : kindOf g = kindOf f := by
  rw [kindOf, kindOf, (h.part "wildcard" 2).isNull_eq, (h.part "relation" 1).text?_eq]

/-- A subject is the same in memory. -/
theorem subjectOf?_eq_of_leaves (h : Leaves f g) : subjectOf? g = subjectOf? f := by
  rw [subjectOf?, subjectOf?, (h.part "type" 0).text?_eq, (h.part "condition" 3).text?_eq,
    kindOf_eq_of_leaves h]

/-- An entry of the metadata is read as the subject that it means. -/
theorem SubjectPayload.subjectOf?_eq {p : SubjectPayload} (hn : Shows f n)
    (hp : shape.read n = .ok p) : subjectOf? f = some p.subject := by
  obtain ⟨-, k, hk, htype⟩ := (isMember_typeName.readFrom hn hp).of_required
  have hrelation := (isMember_relation.readFrom hn hp).text?_eq
  have hcondition := (isMember_condition.readFrom hn hp).text?_eq
  have hkind : kindOf f = p.subject.kind := by
    rw [kindOf, hrelation, SubjectPayload.subject]
    rcases (isMember_wildcard.readFrom hn hp).of_optional with ⟨hnull, hnone⟩ | ⟨hne, v, -, hv, -⟩
    · rw [if_pos (Form.isNull_eq_true.mpr hnull), hnone]
      rfl
    · rw [if_neg (mt Form.isNull_eq_true.mp hne), hv]
      rfl
  rw [subjectOf?, hkind, Json.text?_of_text hk htype, hcondition]
  rfl

/-- What is looked up in the metadata of a type is left of the entry that its text holds. -/
theorem TypePayload.leaves_metadata {p : TypePayload} (hn : Shows f n) (hp : shape.read n = .ok p)
    (relation : String) :
    Leaves (metadataForm f relation)
      (((((p.metadata.bind id).getD []).lookup relation).map Value.form).getD .null) := by
  rcases (isMember_metadata.readFrom hn hp).of_optional with ⟨hnull, hnone⟩ | ⟨-, o, k, hsome, hk, ho⟩
  · rw [metadataForm, hnull, hnone]
    exact Json.leaves_null
  rw [hsome, metadataForm]
  rcases (isMember_metadataRelations.readFrom hk ho).of_optional with
    ⟨hnull, rfl⟩ | ⟨-, entries, k', rfl, hk', hentries⟩
  · rw [hnull]
    exact Json.leaves_null
  · exact Leaves.lookup hk' hentries relation

/-- The subjects of a relation are those that the last entry for it lists, in order. -/
theorem forall₂_listedForms {context relation : String} {metadata : Entries}
    {subjects : List Subject}
    (hleaves : Leaves (metadataForm f relation)
      (((metadata.lookup relation).map Value.form).getD .null))
    (h : metadataSubjects context relation metadata = .ok subjects) :
    List.Forall₂ (fun g s => subjectOf? g = some s) (listedForms f relation) subjects := by
  have hlisted := (hleaves.part "directly_related_user_types" 0).elements
  have hsubjects : List.Forall₂ (fun g s => subjectOf? g = some s)
      (((((metadata.lookup relation).map Value.form).getD .null).part
        "directly_related_user_types" 0).elements) subjects := by
    rw [metadataSubjects] at h
    cases hlookup : metadata.lookup relation with
    | none =>
      rw [hlookup] at h
      obtain rfl := Except.ok.inj h
      exact .nil
    | some v =>
      rw [hlookup] at h
      obtain ⟨ps, hps, rfl⟩ := map_eq_ok.mp (mapError_eq_ok.mp h)
      have hread := isMember_directTypes.readFrom (Json.holds_ofValue v) (mapError_eq_ok.mp hps)
      rw [List.forall₂_map_right_iff]
      refine hread.forall₂_elements.imp fun g p hp => ?_
      obtain ⟨k, hk, hp⟩ := hp
      exact SubjectPayload.subjectOf?_eq hk hp
  exact forall₂_trans hlisted hsubjects fun g g' s hg hs => by
    rw [← subjectOf?_eq_of_leaves hg, hs]

end Subjects

/-! ### Definitions -/

section Definitions

variable {f g : Form} {n : Node}

theorem relationOfEntry_isRelationOf {m : Option String × Form} {e : String × Value}
    {p : TypePayload} {r : Relation} (hn : Shows f n) (hp : TypePayload.shape.read n = .ok p)
    (hname : m.1 = some e.1)
    (h : relationOfEntry p.name ((p.metadata.bind id).getD []) e.1 e.2 = .ok r) :
    IsRelationOf f m r := by
  obtain ⟨tree, -, h⟩ := bind_eq_ok.mp h
  obtain ⟨subjects, hsubjects, h⟩ := bind_eq_ok.mp h
  obtain ⟨rule, hrule, h⟩ := bind_eq_ok.mp h
  obtain rfl := Except.ok.inj h
  refine ⟨hname, fun ss hss => ?_⟩
  have hdescribes := UsersetPayload.describes_of_rule (mapError_eq_ok.mp hrule)
  rw [hdescribes.direct_eq hss]
  exact forall₂_listedForms (TypePayload.leaves_metadata hn hp e.1) hsubjects

/-- A type has the relations of its text, in order. -/
theorem TypePayload.definition_isTypeOf {p : TypePayload} {d : TypeDefinition} (hn : Shows f n)
    (hp : shape.read n = .ok p) (hd : p.definition = .ok d) : IsTypeOf f d := by
  obtain ⟨relations, hrelations, h⟩ := bind_eq_ok.mp hd
  obtain rfl := Except.ok.inj h
  have hall := forall₂_of_mapM hrelations
  refine ⟨?_, ?_⟩
  · obtain ⟨-, k, hk, hname⟩ := (isMember_name.readFrom hn hp).of_required
    exact Json.text?_of_text hk hname
  · rcases (isMember_relations.readFrom hn hp).of_optional with
      ⟨hnull, hnone⟩ | ⟨-, entries, k, hsome, hk, hentries⟩
    · rw [hnone] at hall
      rw [hnull]
      cases hall
      exact .nil
    · rw [hsome] at hall
      exact forall₂_trans (Json.forall₂_of_entries hk hentries) hall fun m e r hm hr =>
        relationOfEntry_isRelationOf hn hp hm.1 hr

namespace ModelPayload

variable {p : ModelPayload} {m : Model}

/-- **A model has the definitions of its payload, in order.** -/
theorem model_isModelOf (hn : Shows f n) (hp : shape.read n = .ok p) (hm : p.model = .ok m) :
    IsModelOf f m := by
  obtain ⟨types, htypes, h⟩ := bind_eq_ok.mp hm
  obtain ⟨conditions, hconditions, h⟩ := bind_eq_ok.mp h
  obtain rfl := Except.ok.inj h
  refine ⟨?_, ?_⟩
  · have hforms := (isMember_types.readFrom hn hp).forall₂_elements
    refine forall₂_trans hforms (forall₂_of_mapM htypes) fun t q d ht hd => ?_
    obtain ⟨k, hk, hq⟩ := ht
    exact TypePayload.definition_isTypeOf hk hq hd
  · have hall := forall₂_of_mapM hconditions
    rcases (isMember_conditions.readFrom hn hp).of_optional with
      ⟨hnull, hnone⟩ | ⟨-, entries, k, hsome, hk, hentries⟩
    · rw [hnone] at hall
      rw [hnull]
      cases hall
      exact .nil
    · rw [hsome] at hall
      refine forall₂_trans (Json.forall₂_of_entries hk hentries) hall fun c e d hc hd => ?_
      rw [name_of_conditionOfEntry hd]
      exact hc.1

end ModelPayload

end Definitions

/-! ### Names that repeat -/

section Names

variable {f g : Form} {n : Node}

/-- An object that is read repeats no name. -/
theorem not_repeatsName {α : Type} {name : String} {place : Nat} {presence : Json.Presence}
    {reader : Reader α} {o : Option (List (String × α))}
    (h : ReadFrom (Reader.optional (Reader.entries reader)) presence none (f.parts name place) o)
    (hg : g ∈ f.parts name place) : ¬ RepeatsName g := by
  rw [RepeatsName, not_not, h.eq_part hg]
  rcases h.of_optional with ⟨hnull, -⟩ | ⟨-, entries, k, -, hk, hentries⟩
  · rw [hnull]
    exact List.nodup_nil
  · exact Json.nodup_members_of_entries hk hentries

namespace ModelPayload

variable {p : ModelPayload}

/-- No definition of a payload that is read repeats. -/
theorem not_repeatsName_of_read (hn : Shows f n) (hp : shape.read n = .ok p) :
    (∀ conditions ∈ f.parts "conditions" 3, ¬ RepeatsName conditions) ∧
      ∀ types ∈ f.parts "type_definitions" 2, ∀ t ∈ types.elements,
        ∀ relations ∈ t.parts "relations" 1, ¬ RepeatsName relations := by
  refine ⟨fun conditions h => not_repeatsName (isMember_conditions.readFrom hn hp) h, ?_⟩
  intro types htypes t ht relations hrelations
  have hread := isMember_types.readFrom hn hp
  rw [hread.eq_part htypes] at ht
  obtain ⟨q, -, k, hk, hq⟩ := exists_of_forall₂_left hread.forall₂_elements ht
  exact not_repeatsName (TypePayload.isMember_relations.readFrom hk hq) hrelations

variable {text : String}

/-- A payload that a text holds is read from the one part that is there for the model. -/
theorem read_modelForm (h : FormDocument f text.toList) (hp : ofText text = .ok p) :
    modelForms f = [modelForm f] ∧ ∃ n, Shows (modelForm f) n ∧ shape.read n = .ok p := by
  rw [ofText] at hp
  dsimp only at hp
  split at hp
  · contradiction
  · next v hv =>
    obtain ⟨n, hread, hn, hvalue⟩ := h.read_of_value hv
    have hp := mapError_eq_ok.mp hp
    rw [hread, Document.run_eq] at hp
    have hnone := Json.get?_eq_none_iff hn hvalue "authorization_model"
    by_cases hentries : f.entries "authorization_model" = []
    · rw [hnone.mpr hentries] at hp
      -- nothing stands under the name, so the whole document is the model
      have hforms : modelForms f = [f] := by
        rw [modelForms, hentries]
        rfl
      rw [modelForm, hforms]
      exact ⟨rfl, n, hn, hp⟩
    · rw [← hnone, ← ne_eq, Option.ne_none_iff_isSome] at hentries
      rw [if_pos hentries] at hp
      obtain ⟨hparts, k, hk, hp⟩ := (isMember_wrapped.readFrom hn hp).of_required
      rw [← Option.ne_none_iff_isSome, ne_eq, hnone] at hentries
      have hforms : modelForms f = f.parts "authorization_model" 0 := by
        rw [modelForms, if_neg (by simpa using hentries),
          Form.parts_eq_entries _ _ (Form.elements_eq_nil_of_entries hentries)]
      have hform : modelForm f = f.part "authorization_model" 0 := by
        rw [modelForm, hforms, Form.part]
      rw [hform, hforms]
      exact ⟨hparts, k, hk, hp⟩

/-- A text that repeats a definition is no payload. -/
theorem not_ofText_of_repeats (h : FormDocument f text.toList) (hrepeats : RepeatsDefinition f) :
    ofText text ≠ .ok p := by
  intro hp
  obtain ⟨hforms, n, hn, hread⟩ := read_modelForm h hp
  obtain ⟨hconditions, htypes⟩ := not_repeatsName_of_read hn hread
  obtain ⟨g, hg, hrepeats⟩ := hrepeats
  rw [hforms, List.mem_singleton] at hg
  subst hg
  rcases hrepeats with ⟨c, hc, hname⟩ | ⟨types, htype, t, ht, relations, hrelations, hname⟩
  · exact hconditions c hc hname
  · exact htypes types htype t ht relations hrelations hname

/-- **No definition is lost, repeated or moved.** A text that defines a relation of a type or a
condition twice is refused; the model of any other payload has the definitions that its text holds,
in order, and the direct nodes of a relation have the subjects that the last entry for it lists. -/
theorem definitions_of_ofText {f : Form} {text : String} (h : FormDocument f text.toList) :
    (RepeatsDefinition f → ∃ e, Model.payloadOfJson text = .error (.payloadText e)) ∧
      ∀ p m, ofText text = .ok p → p.model = .ok m → IsModelOf (modelForm f) m := by
  refine ⟨fun hrepeats => ?_, fun p m hp hm => ?_⟩
  · rw [Model.payloadOfJson]
    cases hp : ofText text with
    | error e => exact ⟨e, rfl⟩
    | ok p => exact absurd hp (not_ofText_of_repeats h hrepeats)
  · obtain ⟨-, n, hn, hread⟩ := read_modelForm h hp
    exact model_isModelOf hn hread hm

/-- Documents whose viewers are defined twice, the second time as nothing. -/
def twiceViewed : Value :=
  .object [("type_definitions", .array [.object [("type", .string "doc"),
    ("relations", .object [("viewer", .object [("this", .object [])]), ("viewer", .null)])]])]

theorem definitions_sharedDocuments :
    (∃ e, Model.payloadOfJson twiceViewed.render = .error (.payloadText e)) ∧
      IsModelOf (modelForm Model.sharedDocuments.payload.form) Model.sharedDocuments := by
  have hnumberless : Json.IsNumberless twiceViewed := by
    simp [twiceViewed, Json.IsNumberless.null]
  have hrepeats : RepeatsDefinition twiceViewed.form :=
    ⟨_, List.mem_singleton.mpr rfl, Or.inr ⟨_, List.mem_singleton.mpr rfl, _,
      List.mem_singleton.mpr rfl, _, List.mem_singleton.mpr rfl, by decide⟩⟩
  have hfits : Model.sharedDocuments.FitsPayload :=
    ⟨by decide, by decide, by decide, by decide, by decide, by decide⟩
  have hdepth : Model.sharedDocuments.payload.depth ≤ Json.nestingLimit := by decide
  have htext := hfits.isTextual.documentText
  obtain ⟨herror, -⟩ := definitions_of_ofText hnumberless.formDocument
  obtain ⟨-, hmodel⟩ := definitions_of_ofText (hfits.isTextual.formDocument htext)
  exact ⟨herror hrepeats, hmodel _ _ (hfits.ofText_eq hdepth htext) (hfits.model_read hdepth)⟩

end ModelPayload

end Names

end Relata
