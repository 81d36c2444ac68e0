import Relata.Proofs.Payload.RoundTrip
import Relata.Proofs.SymbolTable
import Relata.Proofs.Validation

/-!
# Names of accepted models

Which names an accepted model cannot give twice. The validator sees to types and relations, so their
names are distinct whatever the model was read from. It does not compare conditions: their names
are distinct in a payload, where they are the keys of an object, and a text in the model language may
define a condition twice.

## Main definitions

* `Model.ConditionsAreDistinct` — no two conditions have the same name.
* `Model.ReferencesDenoteOne` — every reference to a condition means one definition.

## Main results

* `Model.IsValid.withConditions` — a valid model stays valid with more conditions.
* `ModelPayload.keysAreDistinct_of_ofText` — the keys of a payload's conditions are distinct.
* `Model.isDistinct_of_accepted` — **the names that are distinct in every accepted model.**
* `Model.conditions_repeat` — a text that defines a condition twice is accepted.
-/

namespace Relata

open Json (Node Reader Shape)

/-- No two conditions have the same name. -/
def Model.ConditionsAreDistinct (m : Model) : Prop := (m.conditions.map (·.name)).Nodup

/-- The references to conditions in the rules of a model. -/
def Model.conditionReferences (m : Model) : List String :=
  m.types.flatMap fun t => t.relations.flatMap fun r => r.rule.subjects.filterMap (·.condition)

/-- Every reference to a condition means one definition. -/
def Model.ReferencesDenoteOne (m : Model) : Prop :=
  ∀ name ∈ m.conditionReferences, ∃! c, c ∈ m.conditions ∧ c.name = name

namespace Model

variable {m : Model}

/-- What a rule of a valid model refers to is defined. -/
theorem IsValid.exists_condition (h : m.IsValid) {name : String}
    (hname : name ∈ m.conditionReferences) : ∃ c ∈ m.conditions, c.name = name := by
  obtain ⟨t, ht, hname⟩ := List.mem_flatMap.mp hname
  obtain ⟨r, hr, hname⟩ := List.mem_flatMap.mp hname
  obtain ⟨s, hs, hname⟩ := List.mem_filterMap.mp hname
  obtain ⟨subjects, hnode, hs⟩ := Rule.mem_subjects.mp hs
  obtain ⟨-, hresolved⟩ := h.nodes t ht r hr _ hnode
  exact (hresolved s hs).condition name hname

/-- Where conditions are distinct, a reference to a condition means one definition. -/
theorem ConditionsAreDistinct.referencesDenoteOne (h : m.ConditionsAreDistinct)
    (hvalid : m.IsValid) : m.ReferencesDenoteOne := by
  intro name hname
  obtain ⟨c, hc, rfl⟩ := hvalid.exists_condition hname
  exact ⟨c, ⟨hc, rfl⟩, fun d ⟨hd, hdname⟩ => List.inj_on_of_nodup_map h hd hc hdname⟩

/-- The names of conditions in a symbol table are those of the model. -/
theorem ConditionsAreDistinct.nodup_of_build (h : m.ConditionsAreDistinct) {table : SymbolTable}
    (hbuild : SymbolTable.build m = .ok table) : table.conditions.Nodup := by
  obtain ⟨rfl, -⟩ := SymbolTable.build_eq_ok.mp hbuild
  exact h

/-! ### The validator -/

theorem validated_eq_ok {m' : Model} : m.validated = .ok m' ↔ m = m' ∧ m.IsValid := by
  rw [validated, ← problems_eq_nil, ← validate_eq_ok]
  cases m.validate with
  | error e => simp [Except.map]
  | ok u => simp [Except.map]

/-- A node that is resolved stays so when conditions are added. -/
theorem nodeIsResolved_withConditions {cs : List Condition}
    (hcs : ∀ c ∈ m.conditions, ∃ d ∈ cs, d.name = c.name) {t : TypeDefinition} {n : Rule}
    (h : NodeIsResolved m t n) :
    NodeIsResolved ⟨m.id, m.schemaVersion, m.types, cs⟩ t n := by
  cases n with
  | direct subjects =>
    obtain ⟨hne, hsubjects⟩ := h
    refine ⟨hne, fun s hs => ?_⟩
    obtain ⟨htype, hrelation, hcondition⟩ := hsubjects s hs
    refine ⟨htype, hrelation, fun name hname => ?_⟩
    obtain ⟨c, hc, rfl⟩ := hcondition name hname
    exact hcs c hc
  | _ => exact h

/-- **A valid model stays valid with more conditions**, even with several of one name. -/
theorem IsValid.withConditions (h : m.IsValid) {cs : List Condition}
    (hcs : ∀ c ∈ m.conditions, ∃ d ∈ cs, d.name = c.name) :
    IsValid ⟨m.id, m.schemaVersion, m.types, cs⟩ where
  id := h.id
  schemaVersion := h.schemaVersion
  typeNames := h.typeNames
  relationNames := h.relationNames
  distinct := ⟨h.distinct.types, h.distinct.relations⟩
  nodes := fun t ht r hr n hn => nodeIsResolved_withConditions hcs (h.nodes t ht r hr n hn)

end Model

/-! ### Payloads -/

/-- The keys of the conditions are distinct. -/
def ModelPayload.KeysAreDistinct (p : ModelPayload) : Prop :=
  ∀ entries ∈ p.conditions, (entries.map Prod.fst).Nodup

namespace ModelPayload

theorem keysAreDistinct_of_read {n : Node} {p : ModelPayload} (h : shape.read n = .ok p) :
    p.KeysAreDistinct := by
  refine Shape.read_invariant (P := KeysAreDistinct) (Q := fun _ => True) ?_ ?_ (fun _ _ => trivial) h
  · intro entries hentries
    contradiction
  · intro f hf s n t _ hs ht
    simp only [shape, List.mem_cons, List.not_mem_nil, or_false] at hf
    rcases hf with rfl | rfl | rfl | rfl
    · obtain ⟨_, -, rfl⟩ := map_eq_ok.mp ht
      exact hs
    · obtain ⟨_, -, rfl⟩ := map_eq_ok.mp ht
      exact hs
    · obtain ⟨_, -, rfl⟩ := map_eq_ok.mp ht
      exact hs
    · -- the conditions themselves
      obtain ⟨conditions, hread, rfl⟩ := map_eq_ok.mp ht
      intro entries hentries
      obtain rfl := Option.mem_def.mp hentries
      exact Json.nodup_of_entries (Json.of_optional_eq_some hread)

theorem keysAreDistinct_of_readWrapped {n : Node} {p : ModelPayload}
    (h : wrappedShape.read n = .ok p) : p.KeysAreDistinct := by
  refine Shape.read_invariant (P := KeysAreDistinct) (Q := fun _ => True) ?_ ?_ (fun _ _ => trivial) h
  · intro entries hentries
    contradiction
  · intro f hf s n t _ _ ht
    obtain rfl := List.mem_singleton.mp hf
    obtain ⟨q, hq, rfl⟩ := map_eq_ok.mp ht
    exact keysAreDistinct_of_read hq

/-- **The keys of a payload's conditions are distinct**, wrapped or not. -/
theorem keysAreDistinct_of_ofText {text : String} {p : ModelPayload} (h : ofText text = .ok p) :
    p.KeysAreDistinct := by
  rw [ofText] at h
  split at h
  · contradiction
  · have hrun := mapError_eq_ok.mp h
    obtain ⟨q, hread, hrun⟩ := bind_eq_ok.mp hrun
    have hq : q.KeysAreDistinct := by
      split at hread
      · exact keysAreDistinct_of_readWrapped hread
      · exact keysAreDistinct_of_read hread
    split at hrun
    · obtain rfl := Except.ok.inj hrun
      exact hq
    · contradiction

end ModelPayload

/-- A condition has the name of its key. -/
theorem name_of_conditionOfEntry {name : String} {v : Json.Value} {c : Condition}
    (h : conditionOfEntry name v = .ok c) : c.name = name := by
  obtain ⟨p, -, h⟩ := bind_eq_ok.mp h
  obtain rfl := Except.ok.inj h
  rfl

theorem names_of_conditionOfEntry {entries : Entries} {conditions : List Condition}
    (h : entries.mapM (fun e => conditionOfEntry e.1 e.2) = .ok conditions) :
    conditions.map (·.name) = entries.map Prod.fst := by
  have hall := forall₂_of_mapM h
  clear h
  induction hall with
  | nil => rfl
  | cons hc _ ih => rw [List.map_cons, List.map_cons, ih, name_of_conditionOfEntry hc]

/-- The conditions of a payload have distinct names if their keys are distinct. -/
theorem ModelPayload.KeysAreDistinct.of_model {p : ModelPayload} (hp : p.KeysAreDistinct)
    {m : Model} (h : p.model = .ok m) : m.ConditionsAreDistinct := by
  obtain ⟨types, -, h⟩ := bind_eq_ok.mp h
  obtain ⟨conditions, hconditions, h⟩ := bind_eq_ok.mp h
  obtain rfl := Except.ok.inj h
  show (conditions.map (·.name)).Nodup
  rw [names_of_conditionOfEntry hconditions]
  cases hkeys : p.conditions with
  | none => exact List.nodup_nil
  | some entries => exact hp entries hkeys

/-! ### Accepted models -/

namespace Model

/-- **The names that are distinct in every accepted model.** Those of types, and those of the
relations of a type, whatever the model was read from; those of conditions, and so what references
to them mean and their names in the symbol table, if it was read from a payload. -/
theorem isDistinct_of_accepted (text : String) (m : Model) :
    (ofLanguage text = .ok m → m.NamesAreDistinct) ∧
      (ofJson text = .ok m → m.NamesAreDistinct ∧ m.ConditionsAreDistinct ∧
        m.ReferencesDenoteOne ∧
        ∀ table, SymbolTable.build m = .ok table → table.conditions.Nodup) := by
  constructor
  · intro h
    obtain ⟨m', -, h⟩ := bind_eq_ok.mp h
    obtain ⟨rfl, hvalid⟩ := validated_eq_ok.mp h
    exact hvalid.distinct
  · intro h
    obtain ⟨p, htext, h⟩ := bind_eq_ok.mp h
    obtain ⟨m', hmodel, h⟩ := bind_eq_ok.mp h
    obtain ⟨rfl, hvalid⟩ := validated_eq_ok.mp h
    have hkeys := ModelPayload.keysAreDistinct_of_ofText (mapError_eq_ok.mp htext)
    have hconditions := hkeys.of_model (mapError_eq_ok.mp hmodel)
    exact ⟨hvalid.distinct, hconditions, hconditions.referencesDenoteOne hvalid,
      fun _ hbuild => hconditions.nodup_of_build hbuild⟩

/-- Users with friends, where it is said twice what is late. -/
def lateTwice : List Char :=
  "type user relations define friend:[user with late] ".toList ++
    "condition late(t: int) \x7bt > 9\x7d condition late(t: int) \x7bt < 9\x7d".toList

theorem ofLanguage_lateTwice :
    ∃ m, ofLanguage (String.ofList lateTwice) = .ok m ∧ m.conditionReferences = ["late"] ∧
      m.conditions = [⟨"late", "t > 9", [("t", "int")]⟩, ⟨"late", "t < 9", [("t", "int")]⟩] ∧
      ∃ table, SymbolTable.build m = .ok table ∧ table.conditions = ["late", "late"] := by
  have hnames : ((ofLanguage (String.ofList lateTwice)).toOption.map fun m =>
      (m.conditionReferences, m.conditions, (SymbolTable.build m).toOption.map (·.conditions))) =
        some (["late"],
          [⟨"late", "t > 9", [("t", "int")]⟩, ⟨"late", "t < 9", [("t", "int")]⟩],
          some ["late", "late"]) := by
    -- the characters themselves: taking them from the literals is slow to check
    have htext : lateTwice = _ :=
      congrArg₂ HAppend.hAppend String.toList_ofList String.toList_ofList
    rw [ofLanguage, parse, String.toList_ofList, htext]
    decide +kernel
  obtain ⟨m, hm, hnames⟩ := Option.map_eq_some_iff.mp hnames
  obtain ⟨hreferences, hnames⟩ := Prod.mk.inj hnames
  obtain ⟨hconditions, htable⟩ := Prod.mk.inj hnames
  obtain ⟨table, hbuild, htable⟩ := Option.map_eq_some_iff.mp htable
  exact ⟨m, toOption_eq_some.mp hm, hreferences, hconditions, table, toOption_eq_some.mp hbuild,
    htable⟩

theorem ofJson_sharedDocuments :
    ofJson sharedDocuments.payload.render = .ok sharedDocuments := by
  have hfits : sharedDocuments.FitsPayload :=
    ⟨by decide, by decide, by decide, by decide, by decide, by decide⟩
  have hdepth : sharedDocuments.payload.depth ≤ Json.nestingLimit := by decide
  have htext := hfits.ofText_eq hdepth hfits.isTextual.documentText
  have hproblems : sharedDocuments.problems = [] := by decide
  have hvalid := validated_eq_ok.mpr ⟨rfl, problems_eq_nil.mp hproblems⟩
  have hpayload : ofPayload sharedDocuments.read = .ok sharedDocuments :=
    bind_eq_ok.mpr ⟨_, mapError_eq_ok.mpr (hfits.model_read hdepth), hvalid⟩
  exact bind_eq_ok.mpr ⟨_, mapError_eq_ok.mpr htext, hpayload⟩

theorem isDistinct_sharedDocuments :
    (∃ m, ofLanguage (String.ofList lateTwice) = .ok m ∧ m.NamesAreDistinct) ∧
      ofJson sharedDocuments.payload.render = .ok sharedDocuments ∧
        sharedDocuments.NamesAreDistinct ∧ sharedDocuments.ConditionsAreDistinct ∧
          sharedDocuments.ReferencesDenoteOne ∧
          ∀ table, SymbolTable.build sharedDocuments = .ok table → table.conditions.Nodup := by
  obtain ⟨m, hm, -⟩ := ofLanguage_lateTwice
  exact ⟨⟨m, hm, (isDistinct_of_accepted _ m).1 hm⟩, ofJson_sharedDocuments,
    (isDistinct_of_accepted _ sharedDocuments).2 ofJson_sharedDocuments⟩

/-- **A text that defines a condition twice is accepted**: a reference means two definitions, and
the symbol table repeats the name. -/
theorem conditions_repeat :
    ∃ m, ofLanguage (String.ofList lateTwice) = .ok m ∧ ¬ m.ConditionsAreDistinct ∧
      ¬ m.ReferencesDenoteOne ∧
      ∃ table, SymbolTable.build m = .ok table ∧ ¬ table.conditions.Nodup := by
  obtain ⟨m, hm, hreferences, hconditions, table, hbuild, htable⟩ := ofLanguage_lateTwice
  refine ⟨m, hm, ?_, ?_, table, hbuild, ?_⟩
  · rw [ConditionsAreDistinct, hconditions]
    decide
  · intro hdenote
    have hreference : "late" ∈ m.conditionReferences := by
      rw [hreferences]
      decide
    obtain ⟨c, -, hc⟩ := hdenote "late" hreference
    have hone := hc ⟨"late", "t > 9", [("t", "int")]⟩ ⟨by simp [hconditions], rfl⟩
    have htwo := hc ⟨"late", "t < 9", [("t", "int")]⟩ ⟨by simp [hconditions], rfl⟩
    exact absurd (hone.trans htwo.symm) (by decide)
  · rw [htable]
    decide

end Model

end Relata
