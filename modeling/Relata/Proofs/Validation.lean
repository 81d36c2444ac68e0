import Mathlib.Data.List.Nodup
import Relata.Model.Reading
import Relata.Proofs.Rule

/-!
# Validity without look-ups

What the problems of a model are about, said by membership alone: a model is valid if its names are
usable and distinct and every node of every rule is resolved. The look-ups of the validator see the
first or the last of several definitions of a name; they agree where names are distinct, and where
names are not distinct there is a problem anyway.

## Main definitions

* `IsUsableName` — the names of types and relations.
* `NodeIsResolved` — a node all of whose references resolve.
* `Model.IsValid` — the valid models.

## Main results

* `Rule.problems_eq_nil` — a rule has no problems if all its nodes are resolved.
* `Model.validate_iff_isValid` — **exactly the valid models are accepted.**
-/

namespace Relata

/-! ### Valid models -/

/-- A name of a type or relation. -/
structure IsUsableName (name : String) : Prop where
  ne_nil : name.toList ≠ []
  length_le : name.toList.length ≤ 254
  noDelimiter : ∀ c ∈ name.toList, c ≠ ':' ∧ c ≠ '#' ∧ c ≠ '@'
  noBlank : ∀ c ∈ name.toList, Text.isBlank c = false

/-- The type declares a relation of the given name. -/
def TypeDefinition.Declares (t : TypeDefinition) (relation : String) : Prop :=
  ∃ r ∈ t.relations, r.name = relation

/-- Some type of the given name declares a relation of the given name. -/
def Model.Declares (m : Model) (type relation : String) : Prop :=
  ∃ t ∈ m.types, t.name = type ∧ t.Declares relation

/-- A subject of a declared type, with a declared relation and condition if it has any. -/
structure Subject.IsResolved (m : Model) (s : Subject) : Prop where
  type : ∃ t ∈ m.types, t.name = s.typeName
  relation : ∀ r, s.kind = .userset r → m.Declares s.typeName r
  condition : ∀ c ∈ s.condition, ∃ d ∈ m.conditions, d.name = c

/-- A node of a rule of the type `t` that can be evaluated. A relation looked up through a tupleset
is declared by one of the types assigned in it, or by any type if the tupleset assigns none. -/
def NodeIsResolved (m : Model) (t : TypeDefinition) : Rule → Prop
  | .direct subjects => subjects ≠ [] ∧ ∀ s ∈ subjects, s.IsResolved m
  | .computed relation => t.Declares relation
  | .fromTupleset tupleset relation => ∃ r ∈ t.relations, r.name = tupleset ∧
      ((∃ subjects, .direct subjects ∈ r.rule.nodes ∧
          ∃ s ∈ subjects, m.Declares s.typeName relation) ∨
        (∀ subjects, .direct subjects ∈ r.rule.nodes → subjects = []) ∧
          ∃ t' ∈ m.types, t'.Declares relation)
  | .union children => children ≠ []
  | .intersection children => children ≠ []
  | .difference _ _ => True

/-- No name is declared twice in one place. -/
structure Model.NamesAreDistinct (m : Model) : Prop where
  types : (m.types.map (·.name)).Nodup
  relations : ∀ t ∈ m.types, (t.relations.map (·.name)).Nodup

/-- A valid model. -/
structure Model.IsValid (m : Model) : Prop where
  id : ∀ id ∈ m.id, ∀ c ∈ id.toList, Text.isControl c = false
  schemaVersion : ∀ c ∈ m.schemaVersion.toList, Text.isControl c = false
  typeNames : ∀ t ∈ m.types, IsUsableName t.name
  relationNames : ∀ t ∈ m.types, ∀ r ∈ t.relations, IsUsableName r.name
  distinct : m.NamesAreDistinct
  nodes : ∀ t ∈ m.types, ∀ r ∈ t.relations, ∀ n ∈ r.rule.nodes, NodeIsResolved m t n

/-! ### Names -/

theorem any_isDelimiter_eq_false {cs : List Char} :
    cs.any isDelimiter = false ↔ ∀ c ∈ cs, c ≠ ':' ∧ c ≠ '#' ∧ c ≠ '@' := by
  simp [isDelimiter, and_assoc]

theorem nameProblem?_eq_none {name : String} : nameProblem? name = none ↔ IsUsableName name := by
  rw [nameProblem?]
  constructor
  · intro h
    split at h
    · contradiction
    split at h
    · contradiction
    split at h
    · contradiction
    split at h
    · contradiction
    next hne hlen hdelimiter hblank =>
    exact ⟨by simpa using hne, Nat.not_lt.mp hlen,
      any_isDelimiter_eq_false.mp (by simpa using hdelimiter), by simpa using hblank⟩
  · rintro ⟨hne, hlen, hdelimiter, hblank⟩
    have hlen : name.toList.length ≤ maxNameLength := hlen
    rw [if_neg (by simpa using hne), if_neg (Nat.not_lt.mpr hlen),
      if_neg (by simp [any_isDelimiter_eq_false.mpr hdelimiter]), if_neg (by simpa using hblank)]

/-! ### Look-up where names are distinct -/

section Lookup

variable {α : Type} {name : α → String}

/-- Of a list with distinct names, every member is the one found under its name. -/
theorem find?_name_eq {l : List α} (h : (l.map name).Nodup) {a : α} (ha : a ∈ l) :
    l.find? (name · == name a) = some a := by
  induction l with
  | nil => simp at ha
  | cons b l ih =>
    simp only [List.map_cons, List.nodup_cons] at h
    rcases List.mem_cons.mp ha with rfl | ha
    · simp
    · have hne : name b ≠ name a := fun he => h.1 (he ▸ List.mem_map_of_mem ha)
      rw [List.find?_cons_of_neg (by simpa using hne)]
      exact ih h.2 ha

end Lookup

namespace Model

variable {m : Model}

theorem definesType_eq_true {type : String} :
    m.definesType type = true ↔ ∃ t ∈ m.types, t.name = type := by
  simp [definesType, relationNamesOf?]

theorem definesCondition_eq_true {condition : String} :
    m.definesCondition condition = true ↔ ∃ c ∈ m.conditions, c.name = condition := by
  simp [definesCondition]

/-- The last type of a name is the only one. -/
theorem NamesAreDistinct.relationNamesOf? (h : m.NamesAreDistinct) {t : TypeDefinition}
    (ht : t ∈ m.types) : m.relationNamesOf? t.name = some (t.relations.map (·.name)) := by
  have hnodup : (m.types.reverse.map (·.name)).Nodup := by
    rw [List.map_reverse]
    exact List.nodup_reverse.mpr h.types
  rw [Model.relationNamesOf?, find?_name_eq hnodup (List.mem_reverse.mpr ht), Option.map_some]

theorem NamesAreDistinct.defines_eq_true (h : m.NamesAreDistinct) {type relation : String} :
    m.defines type relation = true ↔ m.Declares type relation := by
  rw [defines]
  constructor
  · intro hd
    split at hd
    · contradiction
    · next names hnames =>
      -- names are found, so some type has this name
      obtain ⟨t, ht, rfl⟩ := definesType_eq_true.mp (by rw [definesType, hnames]; rfl)
      rw [h.relationNamesOf? ht, Option.some.injEq] at hnames
      subst hnames
      exact ⟨t, ht, rfl, by simpa [TypeDefinition.Declares] using hd⟩
  · rintro ⟨t, ht, rfl, r, hr, rfl⟩
    rw [h.relationNamesOf? ht]
    simpa using ⟨r, hr, rfl⟩

/-- A type of the model declares what is declared under its name. -/
theorem NamesAreDistinct.declares_name (h : m.NamesAreDistinct) {t : TypeDefinition}
    (ht : t ∈ m.types) {relation : String} : m.Declares t.name relation ↔ t.Declares relation := by
  constructor
  · rintro ⟨t', ht', hname, hr⟩
    obtain rfl := List.inj_on_of_nodup_map h.types ht' ht hname
    exact hr
  · exact fun hr => ⟨t, ht, rfl, hr⟩

theorem NamesAreDistinct.definesSomewhere_eq_true (h : m.NamesAreDistinct) {relation : String} :
    m.definesSomewhere relation = true ↔ ∃ t ∈ m.types, t.Declares relation := by
  rw [definesSomewhere, List.any_eq_true]
  exact exists_congr fun t => and_congr_right fun ht =>
    h.defines_eq_true.trans (h.declares_name ht)

theorem NamesAreDistinct.relationNamed? (h : m.NamesAreDistinct) {t : TypeDefinition}
    (ht : t ∈ m.types) (relation : String) :
    m.relationNamed? t.name relation = t.relations.find? (·.name == relation) := by
  rw [Model.relationNamed?, typeNamed?, find?_name_eq h.types ht]
  rfl

end Model

/-! ### Problems of rules -/

section Rules

variable {m : Model} {t : TypeDefinition}

theorem Subject.problems_eq_nil (h : m.NamesAreDistinct) {s : Subject} :
    s.problems m = [] ↔ s.IsResolved m := by
  have hrelation : ∀ r, m.defines s.typeName r = true ↔ m.Declares s.typeName r :=
    fun r => h.defines_eq_true
  rw [Subject.problems]
  by_cases ht : m.definesType s.typeName = true
  · rw [if_neg (by simp [ht]), List.append_eq_nil_iff]
    constructor
    · rintro ⟨hk, hc⟩
      refine ⟨Model.definesType_eq_true.mp ht, fun r hr => ?_, fun c hmem => ?_⟩
      · rw [hr] at hk
        exact (hrelation r).mp (by simpa using hk)
      · rw [Option.mem_def.mp hmem] at hc
        exact Model.definesCondition_eq_true.mp (by simpa using hc)
    · rintro ⟨-, hk, hc⟩
      constructor
      · split
        · next r hr => rw [if_pos ((hrelation r).mpr (hk r hr))]
        · rfl
      · split
        · next c hmem => rw [if_pos (Model.definesCondition_eq_true.mpr (hc c hmem))]
        · rfl
  · -- an unknown type is a problem, and the rest of the subject is not looked at
    rw [if_pos (by simpa using ht)]
    exact iff_of_false (List.cons_ne_nil _ _) fun hr => ht (Model.definesType_eq_true.mpr hr.type)

/-- Some type named by the subjects of a rule declares the relation, or there are no subjects. -/
theorem resolves_eq_true (h : m.NamesAreDistinct) (e : Rule) (relation : String) :
    (if (e.subjects.map (·.typeName)).isEmpty then m.definesSomewhere relation
      else (e.subjects.map (·.typeName)).any (m.defines · relation)) = true ↔
    (∃ subjects, .direct subjects ∈ e.nodes ∧ ∃ s ∈ subjects, m.Declares s.typeName relation) ∨
      (∀ subjects, .direct subjects ∈ e.nodes → subjects = []) ∧
        ∃ t ∈ m.types, t.Declares relation := by
  have hnone : e.subjects = [] ↔ ∀ subjects, .direct subjects ∈ e.nodes → subjects = [] := by
    simp only [List.eq_nil_iff_forall_not_mem, Rule.mem_subjects]
    grind
  have hsome : (∃ s ∈ e.subjects, m.Declares s.typeName relation) ↔
      ∃ subjects, .direct subjects ∈ e.nodes ∧ ∃ s ∈ subjects, m.Declares s.typeName relation := by
    simp only [Rule.mem_subjects]
    grind
  rw [← hnone, ← hsome]
  by_cases he : e.subjects = []
  · simp [he, h.definesSomewhere_eq_true]
  · simp [he, h.defines_eq_true]

theorem tuplesetProblems_eq_nil (h : m.NamesAreDistinct) (ht : t ∈ m.types)
    {tupleset relation : String} :
    tuplesetProblems m t.name tupleset relation = [] ↔
      NodeIsResolved m t (.fromTupleset tupleset relation) := by
  rw [tuplesetProblems, h.relationNamed? ht]
  split
  · next hnone =>
    refine iff_of_false (List.cons_ne_nil _ _) ?_
    rintro ⟨r, hr, hname, -⟩
    simpa [hname] using List.find?_eq_none.mp hnone r hr
  · next r hsome =>
    have hr : r ∈ t.relations := List.mem_of_find?_eq_some hsome
    have hname : r.name = tupleset := by simpa using List.find?_some hsome
    have hnil : ∀ b : Bool, (if b then [] else [RuleProblem.unresolved relation tupleset]) = [] ↔
        b = true := by simp
    rw [hnil, resolves_eq_true h]
    constructor
    · exact fun hres => ⟨r, hr, hname, hres⟩
    · rintro ⟨r', hr', rfl, hres⟩
      -- names are distinct, so this is the relation that was found
      rw [find?_name_eq (h.relations t ht) hr', Option.some.injEq] at hsome
      rwa [← hsome]

namespace Rule

theorem problemsOf_eq_flatMap (type : String) (es : List Rule) :
    problemsOf m type es = es.flatMap (problems m type) := by
  induction es with
  | nil => rfl
  | cons e es ih => rw [problemsOf, ih, List.flatMap_cons]

/-- The problems of a set operation: it has none if it has operands, and they have none. -/
theorem operand_problems_eq_nil {type : String} {es : List Rule} :
    (if es.isEmpty then [RuleProblem.noOperands] else []) ++ problemsOf m type es = [] ↔
      es ≠ [] ∧ ∀ e ∈ es, e.problems m type = [] := by
  rw [List.append_eq_nil_iff, problemsOf_eq_flatMap, List.flatMap_eq_nil_iff]
  simp

/-- A rule has no problems if all its nodes are resolved. -/
theorem problems_eq_nil (h : m.NamesAreDistinct) (ht : t ∈ m.types) {e : Rule} :
    e.problems m t.name = [] ↔ ∀ n ∈ e.nodes, NodeIsResolved m t n := by
  induction e with
  | direct subjects =>
    simp [Rule.problems, NodeIsResolved, Subject.problems_eq_nil h]
  | computed relation =>
    simp [Rule.problems, NodeIsResolved, h.defines_eq_true, h.declares_name ht]
  | fromTupleset tupleset relation =>
    rw [Rule.problems, forall_nodes_fromTupleset]
    exact tuplesetProblems_eq_nil h ht
  | union children ih =>
    rw [Rule.problems, operand_problems_eq_nil, forall_nodes_union]
    exact and_congr_right fun _ => forall₂_congr ih
  | intersection children ih =>
    rw [Rule.problems, operand_problems_eq_nil, forall_nodes_intersection]
    exact and_congr_right fun _ => forall₂_congr ih
  | difference base subtract ihb ihs =>
    rw [Rule.problems, List.append_eq_nil_iff, ihb, ihs, forall_nodes_difference]
    simp [NodeIsResolved]

end Rule

end Rules

/-! ### Problems of models -/

/-- The relations of a type have no problems if their names are usable, distinct and not those
before, and their rules have no problems. -/
theorem relationProblems_eq_nil {m : Model} {type : String} {rs : List Relation}
    {before : List String} :
    relationProblems m type before rs = [] ↔
      (∀ r ∈ rs, IsUsableName r.name) ∧ (rs.map (·.name)).Nodup ∧ (∀ r ∈ rs, r.name ∉ before) ∧
        ∀ r ∈ rs, r.rule.problems m type = [] := by
  simp only [← nameProblem?_eq_none]
  induction rs generalizing before with
  | nil => simp [relationProblems]
  | cons r rs ih =>
    simp only [relationProblems, List.append_eq_nil_iff, List.map_eq_nil_iff, ih, List.map_cons,
      List.nodup_cons, List.mem_map, List.mem_cons, not_or]
    grind

/-- The types of a model have no problems if their names are usable, distinct and not those before,
and their relations have no problems. -/
theorem typeProblems_eq_nil {m : Model} {ts : List TypeDefinition} {before : List String} :
    typeProblems m before ts = [] ↔
      (∀ t ∈ ts, IsUsableName t.name) ∧ (ts.map (·.name)).Nodup ∧ (∀ t ∈ ts, t.name ∉ before) ∧
        ∀ t ∈ ts, relationProblems m t.name [] t.relations = [] := by
  simp only [← nameProblem?_eq_none]
  induction ts generalizing before with
  | nil => simp [typeProblems]
  | cons t ts ih =>
    simp only [typeProblems, List.append_eq_nil_iff, ih, List.map_cons, List.nodup_cons,
      List.mem_map, List.mem_cons, not_or]
    grind

namespace Model

variable {m : Model}

/-- The problems of the id and the schema version. -/
theorem problems_eq_nil_iff_typeProblems :
    m.problems = [] ↔ (∀ id ∈ m.id, ∀ c ∈ id.toList, Text.isControl c = false) ∧
      (∀ c ∈ m.schemaVersion.toList, Text.isControl c = false) ∧
        typeProblems m [] m.types = [] := by
  rw [problems, List.append_eq_nil_iff, List.append_eq_nil_iff, and_assoc]
  cases m.id <;> simp

/-- A model without problems is valid, and the other way round. -/
theorem problems_eq_nil : m.problems = [] ↔ m.IsValid := by
  rw [problems_eq_nil_iff_typeProblems, typeProblems_eq_nil]
  simp only [relationProblems_eq_nil, List.not_mem_nil, not_false_eq_true, implies_true, true_and]
  constructor
  · rintro ⟨hid, hversion, hnames, hnodup, hrelations⟩
    have hdistinct : m.NamesAreDistinct := ⟨hnodup, fun t ht => (hrelations t ht).2.1⟩
    exact ⟨hid, hversion, hnames, fun t ht => (hrelations t ht).1, hdistinct, fun t ht r hr =>
      (Rule.problems_eq_nil hdistinct ht).mp ((hrelations t ht).2.2 r hr)⟩
  · rintro ⟨hid, hversion, hnames, hrelations, hdistinct, hnodes⟩
    exact ⟨hid, hversion, hnames, hdistinct.types, fun t ht => ⟨hrelations t ht,
      hdistinct.relations t ht, fun r hr =>
        (Rule.problems_eq_nil hdistinct ht).mpr (hnodes t ht r hr)⟩⟩

theorem validate_eq_ok : m.validate = .ok () ↔ m.problems = [] := by
  rw [validate]
  split
  · next h => simp [h]
  · next h => simp [h]

/-- **Exactly the valid models are accepted.** Any other model is refused with its problems, of
which there is at least one, and all of them are in the message. -/
theorem validate_iff_isValid (m : Model) :
    (m.validate = .ok () ↔ m.IsValid) ∧
      (¬ m.IsValid ↔ m.problems ≠ [] ∧ ∃ e : ModelError, m.validate = .error e ∧
        e = .invalid m.problems ∧ e.message = "malformed authorization model: " ++
          "; ".intercalate (m.problems.map Problem.message)) := by
  refine ⟨validate_eq_ok.trans problems_eq_nil, ?_⟩
  rw [← problems_eq_nil]
  constructor
  · intro h
    refine ⟨h, .invalid m.problems, ?_, rfl, rfl⟩
    rw [validate]
    split
    · next hnil => exact absurd hnil h
    · next hcons => rw [hcons]
  · exact fun h => h.1

end Model

end Relata
