import Mathlib.Data.List.Forall2
import Relata.Category
import Relata.Proofs.Rule

/-!
# Categories of rules by their shape

The category of a rule is decided by a search of the whole tree first and then by a look at the
operands of its root. Neither sees a name or a list of subjects, nor the order of operands, so rules
of one shape are of one category.

## Main definitions

* `Rule.Traverses` — a node somewhere in the rule follows a tupleset.
* `Rule.IsComputedForm`, `Rule.IsDirectForm` — the roots of computed and of direct rules.
* `Rule.SameShape` — rules that differ in names, subjects and the order of operands only.

## Main results

* `OperandCount.of_eq` — the operands of each sort are counted.
* `Rule.category_eq` — the category, in the order of precedence.
* `Rule.SameShape.category_eq` — **rules of one shape are of one category.**
* `Rule.category_iff` — what each category says of the rule.
-/

namespace Relata

namespace Rule

/-! ### Operands -/

/-- Whether a rule is an assignment. -/
def isDirect : Rule → Bool
  | direct _ => true
  | _ => false

/-- Whether a rule is another relation of the object. -/
def isComputed : Rule → Bool
  | computed _ => true
  | _ => false

/-- Whether a rule is neither. -/
def isNested (e : Rule) : Bool := !(e.isDirect || e.isComputed)

/-- Operands that are leaves: other relations of the object, and at most one assignment. -/
structure AreComputed (operands : List Rule) : Prop where
  leaves : ∀ e ∈ operands, e.isDirect ∨ e.isComputed
  computed : ∃ e ∈ operands, e.isComputed
  direct : operands.countP isDirect ≤ 1

theorem areComputed_iff {operands : List Rule} : AreComputed operands ↔
    (∀ e ∈ operands, e.isDirect ∨ e.isComputed) ∧ (∃ e ∈ operands, e.isComputed) ∧
      operands.countP isDirect ≤ 1 :=
  ⟨fun h => ⟨h.leaves, h.computed, h.direct⟩, fun h => ⟨h.1, h.2.1, h.2.2⟩⟩

instance (operands : List Rule) : Decidable (AreComputed operands) :=
  decidable_of_iff' _ areComputed_iff

end Rule

namespace OperandCount

theorem foldl_add (n : OperandCount) (operands : List Rule) :
    operands.foldl add n = ⟨n.direct + operands.countP Rule.isDirect,
      n.computed + operands.countP Rule.isComputed, n.nested + operands.countP Rule.isNested⟩ := by
  induction operands generalizing n with
  | nil => rfl
  | cons e operands ih =>
    rw [List.foldl_cons, ih]
    simp only [List.countP_cons]
    cases e <;> simp [add, Rule.isDirect, Rule.isComputed, Rule.isNested] <;> omega

/-- **The operands of each sort are counted.** -/
theorem of_eq (operands : List Rule) : of operands = ⟨operands.countP Rule.isDirect,
    operands.countP Rule.isComputed, operands.countP Rule.isNested⟩ := by
  rw [of, foldl_add]
  simp only [Nat.zero_add]

theorem nested_eq_zero {operands : List Rule} :
    operands.countP Rule.isNested = 0 ↔ ∀ e ∈ operands, e.isDirect ∨ e.isComputed := by
  rw [List.countP_eq_zero]
  simp [Rule.isNested, or_iff_not_imp_left]

theorem isComputed_of {operands : List Rule} :
    (of operands).isComputed = true ↔ Rule.AreComputed operands := by
  rw [Rule.areComputed_iff, ← nested_eq_zero, ← List.countP_pos_iff, of_eq]
  simp only [isComputed, Bool.and_eq_true, decide_eq_true_eq, and_assoc]
  exact Iff.rfl

theorem isDirect_of {operands : List Rule} :
    (of operands).isDirect = true ↔ ∀ e ∈ operands, e.isDirect := by
  have hcomputed : operands.countP Rule.isComputed = 0 ↔ ∀ e ∈ operands, ¬ e.isComputed :=
    List.countP_eq_zero
  rw [of_eq]
  simp only [isDirect, Bool.and_eq_true, decide_eq_true_eq, nested_eq_zero, hcomputed]
  constructor
  · rintro ⟨hleaves, hnone⟩ e he
    exact (hleaves e he).resolve_right (hnone e he)
  · intro h
    refine ⟨fun e he => Or.inl (h e he), fun e he hcomputed => ?_⟩
    -- no rule is both
    have hdirect := h e he
    cases e <;> contradiction

end OperandCount

namespace Rule

/-! ### Precedence -/

/-- A node of the rule, at any depth, follows a tupleset. -/
def Traverses (e : Rule) : Prop :=
  ∃ tupleset relation, .fromTupleset tupleset relation ∈ e.nodes

/-- Another relation of the object, or a set operation on such relations and at most one
assignment. -/
def IsComputedForm : Rule → Prop
  | direct _ => False
  | computed _ => True
  | fromTupleset _ _ => False
  | union children => AreComputed children
  | intersection children => AreComputed children
  | difference base subtract => AreComputed [base, subtract]

/-- An assignment, or a union of assignments. -/
def IsDirectForm : Rule → Prop
  | direct _ => True
  | union children => ∀ e ∈ children, e.isDirect
  | _ => False

instance : DecidablePred IsComputedForm
  | direct _ => inferInstanceAs (Decidable False)
  | computed _ => inferInstanceAs (Decidable True)
  | fromTupleset _ _ => inferInstanceAs (Decidable False)
  | union children => inferInstanceAs (Decidable (AreComputed children))
  | intersection children => inferInstanceAs (Decidable (AreComputed children))
  | difference base subtract => inferInstanceAs (Decidable (AreComputed [base, subtract]))

instance : DecidablePred IsDirectForm
  | direct _ => inferInstanceAs (Decidable True)
  | computed _ => inferInstanceAs (Decidable False)
  | fromTupleset _ _ => inferInstanceAs (Decidable False)
  | union children => inferInstanceAs (Decidable (∀ e ∈ children, e.isDirect))
  | intersection _ => inferInstanceAs (Decidable False)
  | difference _ _ => inferInstanceAs (Decidable False)

theorem anyFollowsTupleset_eq_any (es : List Rule) :
    anyFollowsTupleset es = es.any followsTupleset := by
  induction es with
  | nil => rfl
  | cons e es ih => rw [anyFollowsTupleset, ih, List.any_cons]

/-- The search finds a node wherever it stands. -/
theorem followsTupleset_eq_true {e : Rule} : e.followsTupleset = true ↔ e.Traverses := by
  induction e with
  | direct subjects => simp [followsTupleset, Traverses, nodes]
  | computed relation => simp [followsTupleset, Traverses, nodes]
  | fromTupleset tupleset relation => simp [followsTupleset, Traverses, nodes]
  | union children ih =>
    simp only [followsTupleset, anyFollowsTupleset_eq_any, List.any_eq_true, Traverses, nodes,
      nodesOf_eq_flatMap, List.mem_cons, reduceCtorEq, false_or, List.mem_flatMap]
    simp only [Traverses] at ih
    grind
  | intersection children ih =>
    simp only [followsTupleset, anyFollowsTupleset_eq_any, List.any_eq_true, Traverses, nodes,
      nodesOf_eq_flatMap, List.mem_cons, reduceCtorEq, false_or, List.mem_flatMap]
    simp only [Traverses] at ih
    grind
  | difference base subtract ihb ihs =>
    simp only [followsTupleset, Bool.or_eq_true, ihb, ihs, Traverses, nodes, List.mem_cons,
      reduceCtorEq, false_or, List.mem_append]
    simp only [exists_or]

instance : DecidablePred Traverses :=
  fun e => decidable_of_iff (e.followsTupleset = true) followsTupleset_eq_true

/-- **The category of a rule**, in the order of precedence. -/
theorem category_eq (e : Rule) : e.category =
    if e.Traverses then .inherited
    else if e.IsComputedForm then .computed
    else if e.IsDirectForm then .direct
    else .indirect := by
  by_cases h : e.Traverses
  · rw [category.eq_def, if_pos h, if_pos (followsTupleset_eq_true.mpr h)]
  · rw [category.eq_def, if_neg h, if_neg (mt followsTupleset_eq_true.mp h)]
    cases e with
    | direct subjects => rfl
    | computed relation => rfl
    | fromTupleset tupleset relation =>
      exact absurd ⟨tupleset, relation, List.mem_singleton.mpr rfl⟩ h
    | union children =>
      simp only [OperandCount.isComputed_of, OperandCount.isDirect_of]
      rfl
    | intersection children =>
      simp only [OperandCount.isComputed_of]
      rfl
    | difference base subtract =>
      simp only [OperandCount.isComputed_of]
      rfl

/-! ### Shapes -/

/-- Rules of one shape. Leaves of one sort may have any names and subjects, the operands of unions
and intersections may come in any order, and so may those of a difference. -/
inductive SameShape : Rule → Rule → Prop
  | direct (subjects subjects' : List Subject) : SameShape (.direct subjects) (.direct subjects')
  | computed (relation relation' : String) : SameShape (.computed relation) (.computed relation')
  | fromTupleset (tupleset relation tupleset' relation' : String) :
      SameShape (.fromTupleset tupleset relation) (.fromTupleset tupleset' relation')
  | union {es ds es' : List Rule} : List.Forall₂ SameShape es ds → ds.Perm es' →
      SameShape (.union es) (.union es')
  | intersection {es ds es' : List Rule} : List.Forall₂ SameShape es ds → ds.Perm es' →
      SameShape (.intersection es) (.intersection es')
  | difference {base subtract base' subtract' : Rule} :
      SameShape base base' → SameShape subtract subtract' →
      SameShape (.difference base subtract) (.difference base' subtract')
  | swapped {base subtract base' subtract' : Rule} :
      SameShape base base' → SameShape subtract subtract' →
      SameShape (.difference base subtract) (.difference subtract' base')

namespace SameShape

variable {e e' : Rule}

theorem isDirect_eq (h : SameShape e e') : e.isDirect = e'.isDirect := by
  cases h <;> rfl

theorem isComputed_eq (h : SameShape e e') : e.isComputed = e'.isComputed := by
  cases h <;> rfl

theorem isNested_eq (h : SameShape e e') : e.isNested = e'.isNested := by
  rw [isNested, isNested, h.isDirect_eq, h.isComputed_eq]

section Operands

variable {es ds es' : List Rule} {p : Rule → Bool}

/-- What does not change from one operand to the other is found as often in both lists. -/
theorem countP_eq (h : List.Forall₂ SameShape es ds) (hperm : ds.Perm es')
    (hp : ∀ {e d}, SameShape e d → p e = p d) : es.countP p = es'.countP p := by
  rw [← hperm.countP_eq]
  clear hperm
  induction h with
  | nil => rfl
  | cons he _ ih => rw [List.countP_cons, List.countP_cons, ih, hp he]

theorem of_eq (h : List.Forall₂ SameShape es ds) (hperm : ds.Perm es') :
    OperandCount.of es = OperandCount.of es' := by
  rw [OperandCount.of_eq, OperandCount.of_eq, countP_eq h hperm isDirect_eq,
    countP_eq h hperm isComputed_eq, countP_eq h hperm isNested_eq]

theorem anyFollowsTupleset_eq (h : List.Forall₂ SameShape es ds) (hperm : ds.Perm es')
    (ih : ∀ e ∈ es, ∀ e', SameShape e e' → e.followsTupleset = e'.followsTupleset) :
    anyFollowsTupleset es = anyFollowsTupleset es' := by
  rw [anyFollowsTupleset_eq_any, anyFollowsTupleset_eq_any, ← hperm.any_eq]
  clear hperm
  induction h with
  | nil => rfl
  | cons he _ ihs =>
    rw [List.any_cons, List.any_cons, ih _ List.mem_cons_self _ he,
      ihs fun e he => ih e (List.mem_cons_of_mem _ he)]

end Operands

/-- A tupleset is followed in both rules or in neither. -/
theorem followsTupleset_eq (h : SameShape e e') : e.followsTupleset = e'.followsTupleset := by
  induction e generalizing e' with
  | direct subjects =>
    cases h with
    | direct => rfl
  | computed relation =>
    cases h with
    | computed => rfl
  | fromTupleset tupleset relation =>
    cases h with
    | fromTupleset => rfl
  | union children ih =>
    cases h with
    | union hds hperm => exact anyFollowsTupleset_eq hds hperm fun e he e' h => ih e he h
  | intersection children ih =>
    cases h with
    | intersection hds hperm => exact anyFollowsTupleset_eq hds hperm fun e he e' h => ih e he h
  | difference base subtract ihb ihs =>
    cases h with
    | difference hb hs => rw [followsTupleset, followsTupleset, ihb hb, ihs hs]
    | swapped hb hs => rw [followsTupleset, followsTupleset, ihb hb, ihs hs, Bool.or_comm]

/-- **Rules of one shape are of one category.** -/
theorem category_eq (h : SameShape e e') : e.category = e'.category := by
  rw [category.eq_def, category.eq_def, h.followsTupleset_eq]
  cases h with
  | direct => rfl
  | computed => rfl
  | fromTupleset => rfl
  | union hds hperm => simp only [of_eq hds hperm]
  | intersection hds hperm => simp only [of_eq hds hperm]
  | difference hb hs => simp only [of_eq (.cons hb (.cons hs .nil)) (.refl _)]
  | swapped hb hs => simp only [of_eq (.cons hb (.cons hs .nil)) (.swap _ _ [])]

end SameShape

/-- **What each category says of a rule.** The categories exclude each other in the order of
precedence, and a rule keeps its category when names, subjects and the order of operands change at
any depth. -/
theorem category_iff (e : Rule) :
    (e.category = .inherited ↔ e.Traverses) ∧
      (e.category = .computed ↔ ¬ e.Traverses ∧ e.IsComputedForm) ∧
      (e.category = .direct ↔ ¬ e.Traverses ∧ ¬ e.IsComputedForm ∧ e.IsDirectForm) ∧
      (e.category = .indirect ↔ ¬ e.Traverses ∧ ¬ e.IsComputedForm ∧ ¬ e.IsDirectForm) ∧
      ∀ e', SameShape e e' → e'.category = e.category := by
  refine ⟨?_, ?_, ?_, ?_, fun e' h => h.category_eq.symm⟩
  all_goals
    rw [category_eq]
    split_ifs with htraverses hcomputed hdirect
  -- each of the four forms against each of the four categories
  all_goals simp [*]

/-- Users, and editors who do not both own and share. -/
def usersAndEditors : Rule :=
  .union [.direct [⟨"user", .object, none⟩],
    .difference (.computed "editor") (.intersection [.computed "owner", .direct []])]

/-- The same in another order and with other names. -/
def usersAndEditorsTurned : Rule :=
  .union [.difference (.intersection [.direct [⟨"team", .userset "member", some "late"⟩],
    .computed "writer"]) (.computed "reader"), .direct []]

theorem category_usersAndEditors :
    SameShape usersAndEditors usersAndEditorsTurned ∧
      usersAndEditorsTurned.category = usersAndEditors.category ∧
      usersAndEditors.category = .indirect := by
  have hshape : SameShape usersAndEditors usersAndEditorsTurned := by
    have hflat : SameShape (.intersection [.computed "owner", .direct []])
        (.intersection [.direct [⟨"team", .userset "member", some "late"⟩], .computed "writer"]) :=
      .intersection (.cons (.computed _ "writer") (.cons (.direct _ _) .nil)) (.swap _ _ [])
    exact .union (.cons (.direct _ []) (.cons (.swapped (.computed _ _) hflat) .nil))
      (.swap _ _ [])
  obtain ⟨-, -, -, hindirect, hsame⟩ := category_iff usersAndEditors
  exact ⟨hshape, hsame _ hshape, hindirect.mpr (by decide)⟩

end Rule

end Relata
