import Relata.Model.Basic

/-!
# Nodes of a rule

A rule is a tree whose set operations have any number of operands. What holds of a whole rule is
mostly said of its nodes: the rule itself, its operands, their operands, and so on.

## Main definitions

* `Rule.nodes` — every node of a rule, the rule itself first.

## Main results

* `Rule.inductionOn` — induction on rules, with one hypothesis for each operand.
* `Rule.mem_subjects` — the subjects of a rule are those of its direct nodes.
-/

namespace Relata

namespace Rule

/-! ### Induction -/

/-- Induction on rules: a set operation comes with the hypothesis for each of its operands. -/
@[elab_as_elim, induction_eliminator]
theorem inductionOn {P : Rule → Prop}
    (direct : ∀ subjects, P (.direct subjects))
    (computed : ∀ relation, P (.computed relation))
    (fromTupleset : ∀ tupleset computed, P (.fromTupleset tupleset computed))
    (union : ∀ children, (∀ e ∈ children, P e) → P (.union children))
    (intersection : ∀ children, (∀ e ∈ children, P e) → P (.intersection children))
    (difference : ∀ base subtract, P base → P subtract → P (.difference base subtract)) :
    ∀ e : Rule, P e
  | .direct subjects => direct subjects
  | .computed relation => computed relation
  | .fromTupleset tupleset relation => fromTupleset tupleset relation
  | .union children => union children fun e _ =>
      inductionOn direct computed fromTupleset union intersection difference e
  | .intersection children => intersection children fun e _ =>
      inductionOn direct computed fromTupleset union intersection difference e
  | .difference base subtract => difference base subtract
      (inductionOn direct computed fromTupleset union intersection difference base)
      (inductionOn direct computed fromTupleset union intersection difference subtract)

/-! ### Nodes -/

mutual

/-- The nodes of a rule, each before its operands. -/
def nodes : Rule → List Rule
  | .direct subjects => [.direct subjects]
  | .computed relation => [.computed relation]
  | .fromTupleset tupleset relation => [.fromTupleset tupleset relation]
  | .union children => .union children :: nodesOf children
  | .intersection children => .intersection children :: nodesOf children
  | .difference base subtract => .difference base subtract :: (base.nodes ++ subtract.nodes)

/-- The nodes of several rules. -/
def nodesOf : List Rule → List Rule
  | [] => []
  | e :: es => e.nodes ++ nodesOf es

end

theorem nodesOf_eq_flatMap (es : List Rule) : nodesOf es = es.flatMap nodes := by
  induction es with
  | nil => rfl
  | cons e es ih => rw [nodesOf, ih, List.flatMap_cons]

theorem subjectsOf_eq_flatMap (es : List Rule) : subjectsOf es = es.flatMap subjects := by
  induction es with
  | nil => rfl
  | cons e es ih => rw [subjectsOf, ih, List.flatMap_cons]

section Forall

variable {P : Rule → Prop}

@[simp] theorem forall_nodes_direct {subjects : List Subject} :
    (∀ n ∈ (direct subjects).nodes, P n) ↔ P (.direct subjects) := by
  simp [nodes]

@[simp] theorem forall_nodes_computed {relation : String} :
    (∀ n ∈ (computed relation).nodes, P n) ↔ P (.computed relation) := by
  simp [nodes]

@[simp] theorem forall_nodes_fromTupleset {tupleset relation : String} :
    (∀ n ∈ (fromTupleset tupleset relation).nodes, P n) ↔ P (.fromTupleset tupleset relation) := by
  simp [nodes]

@[simp] theorem forall_nodes_union {children : List Rule} :
    (∀ n ∈ (union children).nodes, P n) ↔
      P (.union children) ∧ ∀ e ∈ children, ∀ n ∈ e.nodes, P n := by
  simp only [nodes, nodesOf_eq_flatMap, List.mem_cons, List.mem_flatMap]
  grind

@[simp] theorem forall_nodes_intersection {children : List Rule} :
    (∀ n ∈ (intersection children).nodes, P n) ↔
      P (.intersection children) ∧ ∀ e ∈ children, ∀ n ∈ e.nodes, P n := by
  simp only [nodes, nodesOf_eq_flatMap, List.mem_cons, List.mem_flatMap]
  grind

@[simp] theorem forall_nodes_difference {base subtract : Rule} :
    (∀ n ∈ (difference base subtract).nodes, P n) ↔
      P (.difference base subtract) ∧ (∀ n ∈ base.nodes, P n) ∧ ∀ n ∈ subtract.nodes, P n := by
  simp only [nodes, List.mem_cons, List.mem_append]
  grind

end Forall

/-! ### Subjects -/

/-- The statement of `mem_subjects` for the operands of a set operation. -/
private theorem mem_subjects_operands {s : Subject} {es : List Rule}
    (ih : ∀ e ∈ es, s ∈ e.subjects ↔ ∃ subjects, .direct subjects ∈ e.nodes ∧ s ∈ subjects) :
    (∃ e ∈ es, s ∈ e.subjects) ↔
      ∃ subjects, (∃ e ∈ es, .direct subjects ∈ e.nodes) ∧ s ∈ subjects := by
  constructor
  · rintro ⟨e, he, hs⟩
    obtain ⟨subjects, hd, hm⟩ := (ih e he).mp hs
    exact ⟨subjects, ⟨e, he, hd⟩, hm⟩
  · rintro ⟨subjects, ⟨e, he, hd⟩, hm⟩
    exact ⟨e, he, (ih e he).mpr ⟨subjects, hd, hm⟩⟩

/-- A rule lists the subjects of its direct nodes. -/
theorem mem_subjects {s : Subject} {e : Rule} :
    s ∈ e.subjects ↔ ∃ subjects, .direct subjects ∈ e.nodes ∧ s ∈ subjects := by
  induction e with
  | direct subjects => simp [Rule.subjects, nodes]
  | computed relation => simp [Rule.subjects, nodes]
  | fromTupleset tupleset relation => simp [Rule.subjects, nodes]
  | union children ih =>
    simpa [Rule.subjects, subjectsOf_eq_flatMap, nodes, nodesOf_eq_flatMap]
      using mem_subjects_operands ih
  | intersection children ih =>
    simpa [Rule.subjects, subjectsOf_eq_flatMap, nodes, nodesOf_eq_flatMap]
      using mem_subjects_operands ih
  | difference base subtract ihb ihs =>
    simp only [Rule.subjects, nodes, List.mem_append, ihb, ihs, List.mem_cons, reduceCtorEq,
      false_or]
    constructor
    · rintro (⟨subjects, hd, hm⟩ | ⟨subjects, hd, hm⟩)
      · exact ⟨subjects, Or.inl hd, hm⟩
      · exact ⟨subjects, Or.inr hd, hm⟩
    · rintro ⟨subjects, hd | hd, hm⟩
      · exact Or.inl ⟨subjects, hd, hm⟩
      · exact Or.inr ⟨subjects, hd, hm⟩

end Rule

end Relata
