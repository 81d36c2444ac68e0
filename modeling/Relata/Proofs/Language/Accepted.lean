import Relata.Proofs.Language.Taken.Model
import Relata.Proofs.Validation

/-!
# Models that are read

Whatever text a model is read from, it is one that can be written: the grammar leaves no other
names, nodes, conditions or versions. What validation can still find are names that are too long,
names that are declared twice, and references to nothing.

## Main definitions

* `Problem.IsBeyondGrammar` — the problems that the grammar does not rule out.

## Main results

* `Written.nodeIsWritable` — the nodes of an expression that is read.
* `Model.IsWritable.isBeyondGrammar` — what can be wrong with a model that can be written.
* `isWritable_of_parse` — **a model that is read can be written.**
-/

namespace Relata

namespace Language

/-! ### Expressions -/

theorem WrittenSubject.isWritable {s : Subject} {t : List Char} (h : WrittenSubject s t) :
    SubjectIsWritable s := by
  cases h with
  | plain hn hk => exact ⟨hn, hk, by simp⟩
  | conditional hn hk _ _ hc => exact ⟨hn, hk, by simpa using hc⟩

section Behind

variable {α : Type} {sep : List Char → Prop} {W : α → List Char → Prop} {as : List α}
  {u : List Char}

/-- Each element of a list has a text, no longer than that of the list. -/
theorem Behind.exists_of_mem (h : Behind sep W as u) {a : α} (ha : a ∈ as) :
    ∃ t, W a t ∧ t.length ≤ u.length := by
  induction h with
  | nil => contradiction
  | @cons a' as b t u _ ht _ _ ih =>
    rcases List.mem_cons.mp ha with rfl | ha
    · refine ⟨t, ht, ?_⟩
      simp only [List.length_append]
      omega
    · obtain ⟨t', ht', hle⟩ := ih ha
      refine ⟨t', ht', ?_⟩
      simp only [List.length_append]
      omega

/-- What holds of all elements with texts up to a length holds of those of a shorter list. -/
theorem Behind.forall_mem {P : α → Prop} {N : Nat} (h : Behind sep W as u) (hN : u.length ≤ N)
    (hP : ∀ {a t}, t.length ≤ N → W a t → P a) : ∀ a ∈ as, P a := by
  intro a ha
  obtain ⟨t, ht, hle⟩ := h.exists_of_mem ha
  exact hP (hle.trans hN) ht

end Behind

section Nodes

/-- The nodes of expressions in parentheses, in a text of at most `N` characters. -/
def WholeIsWritable (N : Nat) : Prop :=
  ∀ {e t}, t.length < N → Written .whole e t → ∀ n ∈ e.nodes, NodeIsWritable n

variable {N : Nat} {e : Rule} {t : List Char}

theorem nodeIsWritable_operand (hinner : WholeIsWritable N) (hN : t.length ≤ N)
    (h : Written .operand e t) : ∀ n ∈ e.nodes, NodeIsWritable n := by
  cases h with
  | direct _ ht _ hu _ =>
    rw [Rule.forall_nodes_direct]
    refine ⟨List.cons_ne_nil _ _, ?_⟩
    intro s hs
    rcases List.mem_cons.mp hs with rfl | hs
    · exact ht.isWritable
    · exact hu.forall_mem (Nat.le_refl _) (fun _ h => h.isWritable) s hs
  | computed hn =>
    rw [Rule.forall_nodes_computed]
    exact hn
  | fromTupleset hn _ _ ht =>
    rw [Rule.forall_nodes_fromTupleset]
    exact ⟨ht, hn⟩
  | parenthesized _ h _ =>
    -- the text inside is shorter by both parentheses
    refine hinner ?_ h
    simp only [List.length_append, List.length_singleton] at hN
    omega

theorem nodeIsWritable_conjunction (hinner : WholeIsWritable N) (hN : t.length ≤ N)
    (h : Written .conjunction e t) : ∀ n ∈ e.nodes, NodeIsWritable n := by
  cases h with
  | operand h => exact nodeIsWritable_operand hinner hN h
  | intersection h _ hu =>
    rw [List.length_append] at hN
    rw [Rule.forall_nodes_intersection]
    refine ⟨by simp [NodeIsWritable], ?_⟩
    intro d hd
    rcases List.mem_cons.mp hd with rfl | hd
    · exact nodeIsWritable_operand hinner (by omega) h
    · exact hu.forall_mem (by omega) (nodeIsWritable_operand hinner) d hd

theorem nodeIsWritable_disjunction (hinner : WholeIsWritable N) (hN : t.length ≤ N)
    (h : Written .disjunction e t) : ∀ n ∈ e.nodes, NodeIsWritable n := by
  cases h with
  | conjunction h => exact nodeIsWritable_conjunction hinner hN h
  | union h _ hu =>
    rw [List.length_append] at hN
    rw [Rule.forall_nodes_union]
    refine ⟨by simp [NodeIsWritable], ?_⟩
    intro d hd
    rcases List.mem_cons.mp hd with rfl | hd
    · exact nodeIsWritable_conjunction hinner (by omega) h
    · exact hu.forall_mem (by omega) (nodeIsWritable_conjunction hinner) d hd

theorem nodeIsWritable_whole (hinner : WholeIsWritable N) (hN : t.length ≤ N)
    (h : Written .whole e t) : ∀ n ∈ e.nodes, NodeIsWritable n := by
  cases h with
  | disjunction h => exact nodeIsWritable_disjunction hinner hN h
  | difference h _ _ _ hu =>
    simp only [List.length_append] at hN
    rw [Rule.forall_nodes_difference]
    refine ⟨trivial, ?_, ?_⟩
    · exact nodeIsWritable_disjunction hinner (by omega) h
    · exact nodeIsWritable_operand hinner (by omega) hu

/-- The length of a text bounds how deep the parentheses nest in it. -/
theorem wholeIsWritable (N : Nat) : WholeIsWritable N := by
  induction N with
  | zero =>
    intro e t hN _
    omega
  | succ N ih =>
    intro e t hN h
    exact nodeIsWritable_whole ih (Nat.le_of_lt_succ hN) h

/-- The nodes of an expression that is read can be written. -/
theorem Written.nodeIsWritable (h : Written .whole e t) : ∀ n ∈ e.nodes, NodeIsWritable n :=
  nodeIsWritable_whole (wholeIsWritable t.length) (Nat.le_refl _) h

end Nodes

/-! ### Definitions -/

theorem WrittenRelation.isWritable {r : Relation} {t : List Char} (h : WrittenRelation r t) :
    IsName r.name ∧ ∀ n ∈ r.rule.nodes, NodeIsWritable n := by
  cases h with
  | mk _ hn _ _ ht => exact ⟨hn, ht.nodeIsWritable⟩

theorem ReadType.isWritable {t : TypeDefinition} {s : List Char} (h : ReadType t s) :
    IsName t.name ∧
      ∀ r ∈ t.relations, IsName r.name ∧ ∀ n ∈ r.rule.nodes, NodeIsWritable n := by
  cases h with
  | bare _ hn => exact ⟨hn, by simp⟩
  | withRelations _ hn _ _ _ hu =>
    refine ⟨hn, ?_⟩
    intro r hr
    obtain ⟨t, ht⟩ := hu.exists_of_mem hr
    exact ht.isWritable

theorem WrittenParameter.isWritable {p : String × String} {t : List Char}
    (h : WrittenParameter p t) : IsName p.1 ∧ IsParameterType p.2 := by
  cases h with
  | mk hn _ _ htype => exact ⟨hn, htype⟩

theorem WrittenParameters.isWritable {ps : List (String × String)} {t : List Char}
    (h : WrittenParameters ps t) : ∀ p ∈ ps, IsName p.1 ∧ IsParameterType p.2 := by
  cases h with
  | empty => simp
  | list _ ht _ hu _ =>
    intro p hp
    rcases List.mem_cons.mp hp with rfl | hp
    · exact ht.isWritable
    · exact hu.forall_mem (Nat.le_refl _) (fun _ h => h.isWritable) p hp

theorem WrittenCondition.isWritable {c : Condition} {t : List Char} (h : WrittenCondition c t) :
    IsName c.name ∧ IsConditionBody c.expression ∧
      ∀ p ∈ c.parameters, IsName p.1 ∧ IsParameterType p.2 := by
  cases h with
  | mk _ hn _ ht _ hbody => exact ⟨hn, hbody, ht.isWritable⟩

theorem WrittenHeader.isVersion {v : String} {t : List Char} (h : WrittenHeader v t) :
    IsVersion v := by
  cases h with
  | absent => decide
  | mk _ _ hv => exact hv

/-- The types of a model that is read come from items that are read as types. -/
theorem Row.exists_readType {items : List Item} {u : List Char} (hu : Row ReadItem items u) :
    ∀ d ∈ items.filterMap Item.type?, ∃ s, ReadType d s := by
  intro d hd
  obtain ⟨i, hi, hsome⟩ := List.mem_filterMap.mp hd
  obtain ⟨s, hs⟩ := hu.exists_of_mem hi
  cases hs with
  | type hs =>
    obtain rfl := Option.some.inj hsome
    exact ⟨s, hs⟩
  | condition => contradiction

theorem Row.exists_writtenCondition {items : List Item} {u : List Char}
    (hu : Row ReadItem items u) :
    ∀ c ∈ items.filterMap Item.condition?, ∃ s, WrittenCondition c s := by
  intro c hc
  obtain ⟨i, hi, hsome⟩ := List.mem_filterMap.mp hc
  obtain ⟨s, hs⟩ := hu.exists_of_mem hi
  cases hs with
  | type => contradiction
  | condition hs =>
    obtain rfl := Option.some.inj hsome
    exact ⟨s, hs⟩

/-- A model that is read can be written. -/
theorem ReadModel.isWritable {m : Model} {s : List Char} (h : ReadModel m s) : m.IsWritable := by
  cases h with
  | @mk v items b₁ t b₂ u comment _ ht _ hu _ =>
    have htypes := hu.exists_readType
    have hconditions := hu.exists_writtenCondition
    constructor
    case id => rfl
    case version => exact ht.isVersion
    case typeNames =>
      intro d hd
      obtain ⟨s, hs⟩ := htypes d hd
      exact hs.isWritable.1
    case relationNames =>
      intro d hd r hr
      obtain ⟨s, hs⟩ := htypes d hd
      exact (hs.isWritable.2 r hr).1
    case nodes =>
      intro d hd r hr
      obtain ⟨s, hs⟩ := htypes d hd
      exact (hs.isWritable.2 r hr).2
    case conditionNames =>
      intro c hc
      obtain ⟨s, hs⟩ := hconditions c hc
      exact hs.isWritable.1
    case conditionBodies =>
      intro c hc
      obtain ⟨s, hs⟩ := hconditions c hc
      exact hs.isWritable.2.1
    case parameters =>
      intro c hc
      obtain ⟨s, hs⟩ := hconditions c hc
      exact hs.isWritable.2.2

/-! ### Characters of names -/

/-- The code points of white space. -/
def blankCodes : List Nat :=
  List.range' 0x09 5 ++ [0x20, 0x85, 0xA0, 0x1680] ++ List.range' 0x2000 11 ++
    [0x2028, 0x2029, 0x202F, 0x205F, 0x3000]

theorem mem_blankCodes {c : Char} (h : Text.isBlank c = true) : c.toNat ∈ blankCodes := by
  simp only [Text.isBlank, Bool.or_eq_true, Bool.and_eq_true, decide_eq_true_eq, beq_iff_eq] at h
  simp only [blankCodes, List.mem_append, List.mem_range'_1, List.mem_cons, List.not_mem_nil,
    or_false]
  omega

/-- No white space stands in a name. -/
theorem isBlank_of_isNameChar {c : Char} (h : isNameChar c = true) : Text.isBlank c = false := by
  have hnone : ∀ n ∈ blankCodes, isNameChar (Char.ofNat n) = false := by decide +kernel
  rw [Bool.eq_false_iff]
  intro hblank
  have hfalse := hnone c.toNat (mem_blankCodes hblank)
  rw [Char.ofNat_toNat, h] at hfalse
  exact absurd hfalse (by decide)

theorem isControl_of_version {c : Char} (h : (c.isDigit || c = '.') = true) :
    Text.isControl c = false := by
  delta Char.isDigit at h
  simp only [Bool.or_eq_true, Bool.and_eq_true, decide_eq_true_eq, ge_iff_le,
    UInt32.le_iff_toNat_le] at h
  rcases h with ⟨hlow, hhigh⟩ | rfl
  · have hcode : 48 ≤ c.toNat ∧ c.toNat ≤ 57 := ⟨hlow, hhigh⟩
    simp only [Text.isControl, Bool.or_eq_false_iff, Bool.and_eq_false_iff, decide_eq_false_iff_not]
    omega
  · decide

end Language

open Relata.Language

/-! ### Problems -/

/-- A problem of a reference: what it names is not declared. -/
def RuleProblem.IsReference : RuleProblem → Prop
  | .noSubjects => False
  | .undefinedSubjectType _ => True
  | .undefinedSubjectRelation _ _ => True
  | .undefinedCondition _ _ => True
  | .undefinedRelation _ => True
  | .undefinedTupleset _ => True
  | .unresolved _ _ => True
  | .noOperands => False

/-- A problem that the grammar does not rule out: a name that is too long or declared twice, or a
reference to what is not declared. -/
def Problem.IsBeyondGrammar : Problem → Prop
  | .controlInId _ => False
  | .controlInSchemaVersion _ => False
  | .typeName _ problem => problem = .tooLong
  | .duplicateType _ => True
  | .relationName _ _ problem => problem = .tooLong
  | .duplicateRelation _ _ => True
  | .inRule _ _ problem => problem.IsReference

/-- A name can only be too long. -/
theorem Language.IsName.nameProblem?_eq {name : String} (h : IsName name) {p : NameProblem}
    (hp : nameProblem? name = some p) : p = .tooLong := by
  have hdelimiter : name.toList.any isDelimiter = false := by
    rw [any_isDelimiter_eq_false]
    intro c hc
    have hname := h.chars c hc
    exact ⟨ne_of_isNameChar hname (by decide), ne_of_isNameChar hname (by decide),
      ne_of_isNameChar hname (by decide)⟩
  have hblank : name.toList.any Text.isBlank = false := by
    rw [List.any_eq_false]
    intro c hc
    simp [isBlank_of_isNameChar (h.chars c hc)]
  rw [nameProblem?, if_neg (by simpa using h.ne_nil), hdelimiter, hblank] at hp
  by_cases hlen : maxNameLength < name.toList.length
  · rw [if_pos hlen] at hp
    exact (Option.some.inj hp).symm
  · rw [if_neg hlen] at hp
    contradiction

theorem Subject.isReference_of_mem_problems {m : Model} {s : Subject} {p : RuleProblem}
    (h : p ∈ s.problems m) : p.IsReference := by
  unfold Subject.problems at h
  split at h
  · obtain rfl := List.mem_singleton.mp h
    trivial
  · rcases List.mem_append.mp h with h | h
    · split at h
      · rw [List.mem_ite_nil_left] at h
        obtain rfl := List.mem_singleton.mp h.2
        trivial
      · contradiction
    · split at h
      · rw [List.mem_ite_nil_left] at h
        obtain rfl := List.mem_singleton.mp h.2
        trivial
      · contradiction

theorem isReference_of_mem_tuplesetProblems {m : Model} {type tupleset computed : String}
    {p : RuleProblem} (h : p ∈ tuplesetProblems m type tupleset computed) : p.IsReference := by
  unfold tuplesetProblems at h
  split at h
  · obtain rfl := List.mem_singleton.mp h
    trivial
  · rw [List.mem_ite_nil_left] at h
    obtain rfl := List.mem_singleton.mp h.2
    trivial

/-- Of two operands or more none is missing, so a set operation has the problems of its operands. -/
theorem Rule.isReference_of_mem_operation {m : Model} {type : String} {es : List Rule}
    (hlen : 2 ≤ es.length) (hes : ∀ e ∈ es, ∀ p ∈ e.problems m type, p.IsReference) :
    ∀ p ∈ (if es.isEmpty then [RuleProblem.noOperands] else []) ++ problemsOf m type es,
      p.IsReference := by
  intro p hp
  have hne : es.isEmpty = false := by
    cases es with
    | nil => simp at hlen
    | cons => rfl
  rw [hne, problemsOf_eq_flatMap] at hp
  obtain ⟨e, he, hp⟩ := List.mem_flatMap.mp (by simpa using hp)
  exact hes e he p hp

/-- Where all nodes can be written, no subjects and no operands are missing. -/
theorem Rule.isReference_of_mem_problems {m : Model} {type : String} {e : Rule}
    (h : ∀ n ∈ e.nodes, NodeIsWritable n) : ∀ p ∈ e.problems m type, p.IsReference := by
  induction e with
  | direct subjects =>
    obtain ⟨hne, -⟩ := forall_nodes_direct.mp h
    intro p hp
    rw [Rule.problems, List.isEmpty_eq_false_iff.mpr hne] at hp
    obtain ⟨s, -, hp⟩ := List.mem_flatMap.mp (by simpa using hp)
    exact Subject.isReference_of_mem_problems hp
  | computed relation =>
    intro p hp
    rw [Rule.problems] at hp
    split at hp
    · contradiction
    · obtain rfl := List.mem_singleton.mp hp
      trivial
  | fromTupleset tupleset relation =>
    intro p hp
    exact isReference_of_mem_tuplesetProblems hp
  | union children ih =>
    obtain ⟨hlen, hchildren⟩ := forall_nodes_union.mp h
    exact isReference_of_mem_operation hlen fun e he => ih e he (hchildren e he)
  | intersection children ih =>
    obtain ⟨hlen, hchildren⟩ := forall_nodes_intersection.mp h
    exact isReference_of_mem_operation hlen fun e he => ih e he (hchildren e he)
  | difference base subtract ihb ihs =>
    obtain ⟨-, hbase, hsubtract⟩ := forall_nodes_difference.mp h
    intro p hp
    rcases List.mem_append.mp hp with hp | hp
    · exact ihb hbase p hp
    · exact ihs hsubtract p hp

section Problems

variable {m : Model}

theorem isBeyondGrammar_of_mem_relationProblems {type : String} {rs : List Relation}
    (h : ∀ r ∈ rs, IsName r.name ∧ ∀ n ∈ r.rule.nodes, NodeIsWritable n) (before : List String) :
    ∀ p ∈ relationProblems m type before rs, p.IsBeyondGrammar := by
  induction rs generalizing before with
  | nil => simp [relationProblems]
  | cons r rs ih =>
    obtain ⟨hname, hnodes⟩ := h r List.mem_cons_self
    intro p hp
    rw [relationProblems, List.mem_append, List.mem_append, List.mem_append] at hp
    rcases hp with ((hp | hp) | hp) | hp
    · split at hp
      · next problem hproblem =>
        obtain rfl := List.mem_singleton.mp hp
        exact hname.nameProblem?_eq hproblem
      · contradiction
    · split at hp
      · obtain rfl := List.mem_singleton.mp hp
        trivial
      · contradiction
    · obtain ⟨problem, hproblem, rfl⟩ := List.mem_map.mp hp
      exact Rule.isReference_of_mem_problems hnodes problem hproblem
    · exact ih (fun r' hr' => h r' (List.mem_cons_of_mem r hr')) _ p hp

theorem isBeyondGrammar_of_mem_typeProblems {ts : List TypeDefinition}
    (h : ∀ t ∈ ts, IsName t.name ∧
      ∀ r ∈ t.relations, IsName r.name ∧ ∀ n ∈ r.rule.nodes, NodeIsWritable n)
    (before : List String) : ∀ p ∈ typeProblems m before ts, p.IsBeyondGrammar := by
  induction ts generalizing before with
  | nil => simp [typeProblems]
  | cons t ts ih =>
    obtain ⟨hname, hrelations⟩ := h t List.mem_cons_self
    intro p hp
    rw [typeProblems, List.mem_append, List.mem_append, List.mem_append] at hp
    rcases hp with ((hp | hp) | hp) | hp
    · split at hp
      · next problem hproblem =>
        obtain rfl := List.mem_singleton.mp hp
        exact hname.nameProblem?_eq hproblem
      · contradiction
    · split at hp
      · obtain rfl := List.mem_singleton.mp hp
        trivial
      · contradiction
    · exact isBeyondGrammar_of_mem_relationProblems hrelations [] p hp
    · exact ih (fun t' ht' => h t' (List.mem_cons_of_mem t ht')) _ p hp

/-- What can be wrong with a model that can be written. -/
theorem Model.IsWritable.isBeyondGrammar (h : m.IsWritable) :
    ∀ p ∈ m.problems, p.IsBeyondGrammar := by
  have hversion : m.schemaVersion.toList.any Text.isControl = false := by
    rw [List.any_eq_false]
    intro c hc
    simp [isControl_of_version (h.version.2 c hc)]
  intro p hp
  rw [Model.problems, h.id, hversion] at hp
  refine isBeyondGrammar_of_mem_typeProblems ?_ [] p (by simpa using hp)
  intro t ht
  refine ⟨h.typeNames t ht, ?_⟩
  intro r hr
  exact ⟨h.relationNames t ht r hr, h.nodes t ht r hr⟩

end Problems

/-! ### Models that are read -/

/-- **A model that is read can be written**, whatever text it is read from. So if it is refused, all
that is wrong are names that are too long or declared twice and references that do not resolve. -/
theorem isWritable_of_parse {text : String} {m : Model} (h : Model.parse text = .ok m) :
    m.IsWritable ∧ ∀ e, m.validate = .error e →
      e = .invalid m.problems ∧ ∀ p ∈ m.problems, p.IsBeyondGrammar := by
  have hm : m.IsWritable := by
    obtain ⟨m', rest, hmodel⟩ : ∃ m' rest, Language.model text.toList = (m', rest) := ⟨_, _, rfl⟩
    cases rest with
    | nil =>
      obtain rfl : m' = m := by simpa [Model.parse, hmodel] using h
      obtain ⟨used, -, hread, -⟩ := model_split hmodel
      exact hread.isWritable
    | cons c rest => simp [Model.parse, hmodel] at h
  refine ⟨hm, ?_⟩
  intro e he
  refine ⟨?_, hm.isBeyondGrammar⟩
  unfold Model.validate at he
  split at he
  · contradiction
  · next hproblems =>
    rw [hproblems]
    exact (Except.error.inj he).symm

/-- Documents whose viewers are those of a relation that there is not. -/
def ownedDocuments : Model where
  id := none
  schemaVersion := "1.1"
  types := [⟨"doc", [⟨"viewer", .computed "owner"⟩]⟩]
  conditions := []

theorem isWritable_ownedDocuments :
    Model.parse (String.ofList "type doc relations define viewer:owner".toList) =
        .ok ownedDocuments ∧
      ownedDocuments.IsWritable ∧ ∀ e, ownedDocuments.validate = .error e →
        e = .invalid ownedDocuments.problems ∧
          ∀ p ∈ ownedDocuments.problems, p.IsBeyondGrammar := by
  have hgap : Gap [' '] := by decide
  have hviewer : WrittenRelation ⟨"viewer", .computed "owner"⟩ _ :=
    .mk hgap (by decide) (by decide : Blanks []) (by decide : Blanks [])
      (.disjunction (.conjunction (.operand (.computed (by decide)))))
  have hdoc : WrittenType ⟨"doc", [⟨"viewer", .computed "owner"⟩]⟩ _ :=
    .withRelations hgap (by decide) hgap.1.layout (by decide) hgap.1.layout
      (.cons hviewer .nil (by decide) .nil)
  have htext : WrittenModel ownedDocuments _ :=
    .mk .nil .absent .nil (.cons (.type hdoc) .nil (by decide) .nil) (.inl rfl) rfl rfl
  have hmodel : Language.model "type doc relations define viewer:owner".toList =
      (ownedDocuments, []) := by
    refine (congrArg (fun s => Language.model s = _) ?_).mpr htext.model_eq
    decide +kernel
  have hparse : Model.parse (String.ofList "type doc relations define viewer:owner".toList) =
      .ok ownedDocuments := by
    rw [Model.parse, String.toList_ofList, hmodel]
  exact ⟨hparse, isWritable_of_parse hparse⟩

end Relata
