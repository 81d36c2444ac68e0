import Mathlib.Logic.Relation
import Relata.Model.Reading
import Relata.Proofs.Pairing
import Relata.Proofs.Result
import Relata.Proofs.Rule

/-!
# Trees of a payload as rules

A tree describes a rule if and only if each of its nodes, at any depth, has one member and says in
it all that the member needs. The rule then has the shape of the tree, and each of its direct nodes
lists the same subjects. A tree that describes none is complained about under its context.

## Main definitions

* `UsersetPayload.operands`, `UsersetPayload.IsNodeOf` — the nodes of a tree.
* `UsersetPayload.NodeIsWellFormed`, `UsersetPayload.IsWellFormed` — the trees that describe rules.
* `UsersetPayload.Describes` — a tree and a rule of one shape.

## Main results

* `UsersetPayload.rule_eq_ok` — what a node is taken to, given what its operands are.
* `UsersetPayload.rule_isWellFormed`, `UsersetPayload.IsWellFormed.exists_rule` — the trees that
  describe rules are the well-formed ones.
* `UsersetPayload.rule_iff_isWellFormed` — **which trees are taken to rules, to which rules, and how
  the others are refused.**
-/

namespace Relata

open Json (Value)

namespace UsersetPayload

/-! ### Nodes -/

/-- The operands of a node, under whichever of its members they stand. -/
def operands : UsersetPayload → List UsersetPayload
  | .mk _ _ _ union intersection difference =>
    union.getD [] ++ intersection.getD [] ++
      difference.elim [] fun d => d.1.toList ++ d.2.toList

/-- `q` is `p`, or one of its operands, or one of theirs, and so on. -/
def IsNodeOf (q p : UsersetPayload) : Prop :=
  Relation.ReflTransGen (fun p q => q ∈ p.operands) p q

/-- A node with one member that says all it has to. -/
inductive NodeIsWellFormed : UsersetPayload → Prop
  | this (v : Value) : NodeIsWellFormed (.mk (some v) none none none none none)
  | computed {relation : String} : relation ≠ "" →
      NodeIsWellFormed (.mk none (some relation) none none none none)
  | fromTupleset {tupleset relation : String} : tupleset ≠ "" → relation ≠ "" →
      NodeIsWellFormed (.mk none none (some (tupleset, relation)) none none none)
  | union {ps : List UsersetPayload} : ps ≠ [] →
      NodeIsWellFormed (.mk none none none (some ps) none none)
  | intersection {ps : List UsersetPayload} : ps ≠ [] →
      NodeIsWellFormed (.mk none none none none (some ps) none)
  | difference (base subtract : UsersetPayload) :
      NodeIsWellFormed (.mk none none none none none (some (some base, some subtract)))

/-- A tree of well-formed nodes. -/
def IsWellFormed (p : UsersetPayload) : Prop := ∀ q, IsNodeOf q p → NodeIsWellFormed q

/-- A tree and a rule of one shape: the same operators over operands in the same order, the same
names, and `subjects` in place of every `this`. -/
inductive Describes (subjects : List Subject) : UsersetPayload → Rule → Prop
  | this (v : Value) :
      Describes subjects (.mk (some v) none none none none none) (.direct subjects)
  | computed (relation : String) :
      Describes subjects (.mk none (some relation) none none none none) (.computed relation)
  | fromTupleset (tupleset relation : String) :
      Describes subjects (.mk none none (some (tupleset, relation)) none none none)
        (.fromTupleset tupleset relation)
  | union {ps : List UsersetPayload} {es : List Rule} :
      List.Forall₂ (Describes subjects) ps es →
      Describes subjects (.mk none none none (some ps) none none) (.union es)
  | intersection {ps : List UsersetPayload} {es : List Rule} :
      List.Forall₂ (Describes subjects) ps es →
      Describes subjects (.mk none none none none (some ps) none) (.intersection es)
  | difference {base subtract : UsersetPayload} {e e' : Rule} :
      Describes subjects base e → Describes subjects subtract e' →
      Describes subjects (.mk none none none none none (some (some base, some subtract)))
        (.difference e e')

theorem isWellFormed_iff {p : UsersetPayload} :
    p.IsWellFormed ↔ NodeIsWellFormed p ∧ ∀ q ∈ p.operands, q.IsWellFormed := by
  constructor
  · intro h
    exact ⟨h p .refl, fun q hq r hr => h r (.head hq hr)⟩
  · rintro ⟨hp, hoperands⟩ q hq
    rcases hq.cases_head with rfl | ⟨r, hr, hq⟩
    · exact hp
    · exact hoperands r hr q hq

/-- An operand is smaller than its node. -/
theorem sizeOf_lt_of_mem_operands {p q : UsersetPayload} (h : q ∈ p.operands) :
    sizeOf q < sizeOf p := by
  obtain ⟨this, computed, tuple, union, intersection, difference⟩ := p
  simp only [operands, List.mem_append] at h
  rw [mk.sizeOf_spec]
  rcases h with (h | h) | h
  · cases union with
    | none => contradiction
    | some ps =>
      have hlt := List.sizeOf_lt_of_mem (show q ∈ ps from h)
      rw [Option.some.sizeOf_spec]
      omega
  · cases intersection with
    | none => contradiction
    | some ps =>
      have hlt := List.sizeOf_lt_of_mem (show q ∈ ps from h)
      simp only [Option.some.sizeOf_spec]
      omega
  · cases difference with
    | none => contradiction
    | some d =>
      obtain ⟨base, subtract⟩ := d
      simp only [Option.elim, List.mem_append, Option.mem_toList] at h
      rcases h with rfl | rfl
      · simp only [Option.some.sizeOf_spec, Prod.mk.sizeOf_spec]
        omega
      · simp only [Option.some.sizeOf_spec, Prod.mk.sizeOf_spec]
        omega

/-- Induction on trees: a node comes with the hypothesis for each of its operands. -/
@[elab_as_elim]
theorem inductionOn {P : UsersetPayload → Prop} (h : ∀ p, (∀ q ∈ p.operands, P q) → P p)
    (p : UsersetPayload) : P p :=
  h p fun q hq =>
    have := sizeOf_lt_of_mem_operands hq
    inductionOn h q
  termination_by sizeOf p

/-! ### One node -/

section Rules

variable {subjects : List Subject} {p : UsersetPayload} {e : Rule}

/-- What a node is taken to, given what its operands are taken to. -/
inductive NodeRule (subjects : List Subject) : UsersetPayload → Rule → Prop
  | this (v : Value) :
      NodeRule subjects (.mk (some v) none none none none none) (.direct subjects)
  | computed {relation : String} : relation ≠ "" →
      NodeRule subjects (.mk none (some relation) none none none none) (.computed relation)
  | fromTupleset {tupleset relation : String} : tupleset ≠ "" → relation ≠ "" →
      NodeRule subjects (.mk none none (some (tupleset, relation)) none none none)
        (.fromTupleset tupleset relation)
  | union {ps : List UsersetPayload} {es : List Rule} : ps ≠ [] →
      List.Forall₂ (fun p e => p.rule subjects = .ok e) ps es →
      NodeRule subjects (.mk none none none (some ps) none none) (.union es)
  | intersection {ps : List UsersetPayload} {es : List Rule} : ps ≠ [] →
      List.Forall₂ (fun p e => p.rule subjects = .ok e) ps es →
      NodeRule subjects (.mk none none none none (some ps) none) (.intersection es)
  | difference {base subtract : UsersetPayload} {e e' : Rule} :
      base.rule subjects = .ok e → subtract.rule subjects = .ok e' →
      NodeRule subjects (.mk none none none none none (some (some base, some subtract)))
        (.difference e e')

theorem rules_eq_ok {ps : List UsersetPayload} {es : List Rule} :
    rules subjects ps = .ok es ↔ List.Forall₂ (fun p e => p.rule subjects = .ok e) ps es := by
  induction ps generalizing es with
  | nil =>
    rw [rules, Except.ok.injEq, List.forall₂_nil_left_iff, eq_comm]
  | cons p ps ih =>
    rw [rules]
    constructor
    · intro h
      obtain ⟨e, he, h⟩ := bind_eq_ok.mp h
      obtain ⟨es', hes, h⟩ := bind_eq_ok.mp h
      obtain rfl := Except.ok.inj h
      exact .cons he (ih.mp hes)
    · rintro (_ | ⟨he, hes⟩)
      rw [he, ih.mpr hes]
      rfl

/-- A set operation with operands is taken to the same operation on what they are taken to. -/
theorem operation_eq_ok {ps : List UsersetPayload} {operator : String} {set : List Rule → Rule} :
    (if ps.isEmpty then .error (UsersetProblem.noChild operator) else set <$> rules subjects ps) =
        .ok e ↔
      ps ≠ [] ∧ ∃ es, List.Forall₂ (fun p e => p.rule subjects = .ok e) ps es ∧ set es = e := by
  cases ps with
  | nil => simp
  | cons p ps =>
    rw [List.isEmpty_cons, if_neg Bool.false_ne_true, map_eq_ok]
    simp only [rules_eq_ok, ne_eq, reduceCtorEq, not_false_eq_true, true_and]

/-- A node with one member, whatever the member says. -/
inductive HasOneMember : UsersetPayload → Prop
  | this (v : Value) : HasOneMember (.mk (some v) none none none none none)
  | computed (relation : String) : HasOneMember (.mk none (some relation) none none none none)
  | fromTupleset (tupleset relation : String) :
      HasOneMember (.mk none none (some (tupleset, relation)) none none none)
  | union (ps : List UsersetPayload) : HasOneMember (.mk none none none (some ps) none none)
  | intersection (ps : List UsersetPayload) : HasOneMember (.mk none none none none (some ps) none)
  | difference (base subtract : Option UsersetPayload) :
      HasOneMember (.mk none none none none none (some (base, subtract)))

theorem hasOneMember_of_memberCount (h : p.memberCount = 1) : p.HasOneMember := by
  obtain ⟨this, computed, tuple, union, intersection, difference⟩ := p
  cases this <;> cases computed <;> cases tuple <;> cases union <;> cases intersection <;>
    cases difference <;> first | constructor | simp [memberCount] at h

/-- A node of no member, or of several, is refused. -/
theorem rule_eq_memberCount (h : p.memberCount ≠ 1) :
    p.rule subjects = .error (.memberCount p.memberCount) := by
  cases p
  unfold rule
  exact if_pos h

theorem NodeRule.rule_eq (h : NodeRule subjects p e) : p.rule subjects = .ok e := by
  cases h with
  | this v => rfl
  | computed hne =>
    show (if _ = "" then _ else _) = _
    rw [if_neg hne]
  | fromTupleset ht hr =>
    show (if _ = "" || _ = "" then _ else _) = _
    rw [if_neg (by simp [ht, hr])]
  | union hne hes => exact operation_eq_ok.mpr ⟨hne, _, hes, rfl⟩
  | intersection hne hes => exact operation_eq_ok.mpr ⟨hne, _, hes, rfl⟩
  | difference he he' => exact bind_eq_ok.mpr ⟨_, he, bind_eq_ok.mpr ⟨_, he', rfl⟩⟩

/-- A node that is taken to a rule and has one member says in it all that the member needs. -/
theorem HasOneMember.nodeRule (hp : p.HasOneMember) (h : p.rule subjects = .ok e) :
    NodeRule subjects p e := by
  cases hp with
  | this v =>
    obtain rfl := Except.ok.inj h
    exact .this v
  | computed relation =>
    change (if relation = "" then _ else _) = _ at h
    split at h
    · contradiction
    · next hne =>
      obtain rfl := Except.ok.inj h
      exact .computed hne
  | fromTupleset tupleset relation =>
    change (if tupleset = "" || relation = "" then _ else _) = _ at h
    split at h
    · contradiction
    · next hne =>
      simp only [Bool.or_eq_true, decide_eq_true_eq, not_or] at hne
      obtain rfl := Except.ok.inj h
      exact .fromTupleset hne.1 hne.2
  | union ps =>
    obtain ⟨hne, es, hes, rfl⟩ := operation_eq_ok.mp h
    exact .union hne hes
  | intersection ps =>
    obtain ⟨hne, es, hes, rfl⟩ := operation_eq_ok.mp h
    exact .intersection hne hes
  | difference base subtract =>
    cases base with
    | none => contradiction
    | some base =>
      cases subtract with
      | none => contradiction
      | some subtract =>
        obtain ⟨e, he, h⟩ := bind_eq_ok.mp h
        obtain ⟨e', he', h⟩ := bind_eq_ok.mp h
        obtain rfl := Except.ok.inj h
        exact .difference he he'

/-- **What a node is taken to**, and the only nodes that are taken to anything. -/
theorem rule_eq_ok : p.rule subjects = .ok e ↔ NodeRule subjects p e := by
  refine ⟨fun h => ?_, NodeRule.rule_eq⟩
  by_cases hcount : p.memberCount = 1
  · exact (hasOneMember_of_memberCount hcount).nodeRule h
  · rw [rule_eq_memberCount hcount] at h
    contradiction

/-! ### Trees -/

/-- A tree that is taken to a rule is well-formed. -/
theorem rule_isWellFormed (h : p.rule subjects = .ok e) : p.IsWellFormed := by
  induction p using inductionOn generalizing e with
  | h p ih =>
    rw [isWellFormed_iff]
    cases rule_eq_ok.mp h with
    | this v => exact ⟨.this v, by simp [operands]⟩
    | computed hne => exact ⟨.computed hne, by simp [operands]⟩
    | fromTupleset ht hr => exact ⟨.fromTupleset ht hr, by simp [operands]⟩
    | union hne hes =>
      refine ⟨.union hne, fun q hq => ?_⟩
      obtain ⟨e, -, he⟩ := exists_of_forall₂_left hes (by simpa [operands] using hq)
      exact ih q hq he
    | intersection hne hes =>
      refine ⟨.intersection hne, fun q hq => ?_⟩
      obtain ⟨e, -, he⟩ := exists_of_forall₂_left hes (by simpa [operands] using hq)
      exact ih q hq he
    | @difference base subtract e e' he he' =>
      refine ⟨.difference base subtract, fun q hq => ?_⟩
      have hor : q = base ∨ q = subtract := by simpa [operands] using hq
      rcases hor with rfl | rfl
      · exact ih q hq he
      · exact ih q hq he'

/-- A well-formed tree is taken to a rule. -/
theorem IsWellFormed.exists_rule (h : p.IsWellFormed) : ∃ e, p.rule subjects = .ok e := by
  induction p using inductionOn with
  | h p ih =>
    obtain ⟨hnode, hoperands⟩ := isWellFormed_iff.mp h
    have hrule : ∀ q ∈ p.operands, ∃ e, q.rule subjects = .ok e :=
      fun q hq => ih q hq (hoperands q hq)
    cases hnode with
    | this v => exact ⟨_, rule_eq_ok.mpr (.this v)⟩
    | computed hne => exact ⟨_, rule_eq_ok.mpr (.computed hne)⟩
    | fromTupleset ht hr => exact ⟨_, rule_eq_ok.mpr (.fromTupleset ht hr)⟩
    | union hne =>
      obtain ⟨es, hes⟩ := exists_forall₂ fun q hq => hrule q (by simpa [operands] using hq)
      exact ⟨_, rule_eq_ok.mpr (.union hne hes)⟩
    | intersection hne =>
      obtain ⟨es, hes⟩ := exists_forall₂ fun q hq => hrule q (by simpa [operands] using hq)
      exact ⟨_, rule_eq_ok.mpr (.intersection hne hes)⟩
    | difference base subtract =>
      obtain ⟨e, he⟩ := hrule base (by simp [operands])
      obtain ⟨e', he'⟩ := hrule subtract (by simp [operands])
      exact ⟨_, rule_eq_ok.mpr (.difference he he')⟩

/-- A rule has the shape of the tree that is taken to it. -/
theorem describes_of_rule (h : p.rule subjects = .ok e) : p.Describes subjects e := by
  induction p using inductionOn generalizing e with
  | h p ih =>
    cases rule_eq_ok.mp h with
    | this v => exact .this v
    | computed _ => exact .computed _
    | fromTupleset _ _ => exact .fromTupleset _ _
    | union _ hes =>
      refine .union (forall₂_imp_of_mem hes fun q hq e _ he => ih q ?_ he)
      simpa [operands] using hq
    | intersection _ hes =>
      refine .intersection (forall₂_imp_of_mem hes fun q hq e _ he => ih q ?_ he)
      simpa [operands] using hq
    | difference he he' =>
      exact .difference (ih _ (by simp [operands]) he) (ih _ (by simp [operands]) he')

/-- Every direct node of the rule lists the same subjects. -/
theorem Describes.direct_eq (h : p.Describes subjects e) {ss : List Subject}
    (hss : .direct ss ∈ e.nodes) : ss = subjects := by
  -- over all nodes, so that what holds of the operands can be used
  suffices hall : ∀ n ∈ e.nodes, ∀ ss, n = .direct ss → ss = subjects from hall _ hss ss rfl
  clear hss
  induction e generalizing p with
  | direct listed =>
    cases h with
    | this v =>
      rw [Rule.forall_nodes_direct]
      rintro ss ⟨⟩
      rfl
  | computed relation =>
    rw [Rule.forall_nodes_computed]
    exact nofun
  | fromTupleset tupleset relation =>
    rw [Rule.forall_nodes_fromTupleset]
    exact nofun
  | union children ih =>
    cases h with
    | union hes =>
      rw [Rule.forall_nodes_union]
      refine ⟨nofun, fun e he => ?_⟩
      obtain ⟨q, -, hq⟩ := exists_of_forall₂_right hes he
      exact ih e he hq
  | intersection children ih =>
    cases h with
    | intersection hes =>
      rw [Rule.forall_nodes_intersection]
      refine ⟨nofun, fun e he => ?_⟩
      obtain ⟨q, -, hq⟩ := exists_of_forall₂_right hes he
      exact ih e he hq
  | difference base subtract ihb ihs =>
    cases h with
    | difference hb hs =>
      rw [Rule.forall_nodes_difference]
      exact ⟨nofun, ihb hb, ihs hs⟩

/-- The complaint about a tree starts with its context. -/
theorem message_userset (context : String) (cause : UsersetProblem) :
    ∃ rest, (ModelError.payload (.userset context cause)).message =
      "malformed authorization model: " ++ context ++ rest := by
  refine ⟨": " ++ cause.message, ?_⟩
  unfold ModelError.message ModelError.reason PayloadProblem.message
  dsimp only
  rw [String.append_assoc, String.append_assoc]

/-- **Which trees are taken to rules.** Just the well-formed ones are; the rule has the shape of the
tree and the given subjects in every direct node. The complaint about another tree starts with the
context. -/
theorem rule_iff_isWellFormed (p : UsersetPayload) (subjects : List Subject) (context : String) :
    ((∃ e, (p.rule subjects).mapError (PayloadProblem.userset context) = .ok e) ↔
        p.IsWellFormed) ∧
      (∀ e, (p.rule subjects).mapError (PayloadProblem.userset context) = .ok e →
        p.Describes subjects e ∧ ∀ ss, .direct ss ∈ e.nodes → ss = subjects) ∧
      ∀ problem, (p.rule subjects).mapError (PayloadProblem.userset context) = .error problem →
        ∃ rest, (ModelError.payload problem).message =
          "malformed authorization model: " ++ context ++ rest := by
  refine ⟨⟨?_, ?_⟩, ?_, ?_⟩
  · rintro ⟨e, he⟩
    exact rule_isWellFormed (mapError_eq_ok.mp he)
  · intro h
    obtain ⟨e, he⟩ := h.exists_rule
    exact ⟨e, mapError_eq_ok.mpr he⟩
  · intro e he
    have hdescribes := describes_of_rule (mapError_eq_ok.mp he)
    exact ⟨hdescribes, fun ss hss => hdescribes.direct_eq hss⟩
  · intro problem h
    cases hrule : p.rule subjects with
    | ok e =>
      rw [hrule, Except.mapError] at h
      contradiction
    | error cause =>
      rw [hrule, Except.mapError, Except.error.injEq] at h
      subst h
      exact message_userset context cause

/-- Those assigned, and the members that the parent does not ban. -/
def membersNotBanned : UsersetPayload :=
  .mk none none none (some [.mk (some (.object [])) none none none none none,
    .mk none none none none none (some (some (.mk none (some "member") none none none none),
      some (.mk none none (some ("parent", "banned")) none none none)))]) none none

/-- Those assigned, and an intersection of nothing. -/
def emptyIntersection : UsersetPayload :=
  .mk none none none (some [.mk (some (.object [])) none none none none none,
    .mk none none none none (some []) none]) none none

theorem rule_membersNotBanned :
    ∃ e, (membersNotBanned.rule [⟨"user", .object, none⟩]).mapError
        (PayloadProblem.userset "doc#viewer") = .ok e ∧
      membersNotBanned.Describes [⟨"user", .object, none⟩] e ∧
      ¬ emptyIntersection.IsWellFormed ∧
      ∃ rest, (ModelError.payload (.userset "doc#viewer" (.noChild "intersection"))).message =
        "malformed authorization model: " ++ "doc#viewer" ++ rest := by
  obtain ⟨-, hrule, -⟩ := rule_iff_isWellFormed membersNotBanned [⟨"user", .object, none⟩]
    "doc#viewer"
  obtain ⟨hiff, -, hmessage⟩ := rule_iff_isWellFormed emptyIntersection [] "doc#viewer"
  have herror : (emptyIntersection.rule []).mapError (PayloadProblem.userset "doc#viewer") =
      .error (.userset "doc#viewer" (.noChild "intersection")) := rfl
  refine ⟨_, rfl, (hrule _ rfl).1, ?_, hmessage _ herror⟩
  intro h
  obtain ⟨e, he⟩ := hiff.mpr h
  rw [herror] at he
  contradiction

end Rules

end UsersetPayload

end Relata
