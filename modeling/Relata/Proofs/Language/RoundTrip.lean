import Relata.Language.Parse
import Relata.Proofs.Language.Definition

/-!
# Models read back

A model that can be written is read back from each of its texts, and it has one.

## Main results

* `exists_written` — every rule whose nodes can be written has a text.
* `exists_writtenModel` — every model that can be written has a text.
* `parse_writtenModel` — **a model is read back from each of its texts.**
-/

namespace Relata

namespace Language

/-! ### Shortest layout -/

theorem gap_space : Gap [' '] := ⟨by simp [Blanks, isSpace], by simp⟩

theorem blanks_nil : Blanks [] := by simp [Blanks]

theorem layout_newline : Layout ['\n'] := .spacing (by decide) .nil

/-! ### Texts of lists -/

section Lists

variable {α : Type} {W : α → List Char → Prop}

/-- A list has a text if its elements have and a separator keeps names apart. -/
theorem exists_behind {sep : List Char → Prop} {b : List Char} (hb : sep b)
    (hapart : ∀ t s, Apart t (b ++ s)) {as : List α} (h : ∀ a ∈ as, ∃ t, W a t) :
    ∃ u, Behind sep W as u ∧ ∀ t, Apart t u := by
  induction as with
  | nil => exact ⟨[], .nil, apart_nil_right⟩
  | cons a as ih =>
    obtain ⟨t, ht⟩ := h a List.mem_cons_self
    obtain ⟨u, hu, hapart'⟩ := ih fun a' ha => h a' (List.mem_cons_of_mem a ha)
    refine ⟨b ++ t ++ u, .cons hb ht (hapart' t) hu, fun t' => ?_⟩
    rw [List.append_assoc]
    exact hapart t' _

theorem exists_sequence {as : List α} (h : ∀ a ∈ as, ∃ t, W a t) : ∃ u, Sequence W as u := by
  induction as with
  | nil => exact ⟨[], .nil⟩
  | cons a as ih =>
    obtain ⟨t, ht⟩ := h a List.mem_cons_self
    obtain ⟨u, hu⟩ := ih fun a' ha => h a' (List.mem_cons_of_mem a ha)
    exact ⟨t ++ ['\n'] ++ u, .cons ht layout_newline (layout_newline.apart (by simp) t u) hu⟩

end Lists

/-! ### Texts of expressions -/

theorem exists_writtenSubject {s : Subject} (h : SubjectIsWritable s) :
    ∃ t, WrittenSubject s t := by
  obtain ⟨n, kind, condition⟩ := s
  cases condition with
  | none => exact ⟨_, .plain h.typeName h.kind⟩
  | some c => exact ⟨_, .conditional h.typeName h.kind gap_space gap_space (h.condition c rfl)⟩

/-- Operators with one blank on either side. -/
theorem operatorText_spaced (word : List Char) : OperatorText word ([' '] ++ word ++ [' ']) :=
  ⟨[' '], [' '], gap_space.1, gap_space, rfl⟩

/-- In parentheses every expression is an operand. -/
theorem Written.in_parentheses {e : Rule} {t : List Char} (h : Written .whole e t) :
    ∃ u, Written .operand e u :=
  ⟨_, .parenthesized blanks_nil h blanks_nil⟩

/-- Two operands or more have a text with an operator between them. -/
theorem exists_operands (word : List Char) {W : Rule → List Char → Prop} {es : List Rule}
    (hlen : 2 ≤ es.length) (h : ∀ e ∈ es, ∃ t, W e t) :
    ∃ e e' es' t u, es = e :: e' :: es' ∧ W e t ∧ Apart t u ∧
      Behind (OperatorText word) W (e' :: es') u := by
  obtain _ | ⟨e, _ | ⟨e', es⟩⟩ := es
  · simp at hlen
  · simp at hlen
  · obtain ⟨t, ht⟩ := h e List.mem_cons_self
    obtain ⟨u, hu, hapart⟩ := exists_behind (operatorText_spaced word)
      (fun t s => gap_space.apart t _) fun d hd => h d (List.mem_cons_of_mem e hd)
    exact ⟨e, e', es, t, u, rfl, ht, hapart t, hu⟩

/-- Every rule whose nodes can be written has a text that can stand as an operand. -/
theorem exists_written {e : Rule} (h : ∀ n ∈ e.nodes, NodeIsWritable n) :
    ∃ t, Written .operand e t := by
  induction e with
  | direct subjects =>
    simp only [Rule.forall_nodes_direct, NodeIsWritable] at h
    obtain ⟨hne, hs⟩ := h
    cases subjects with
    | nil => exact absurd rfl hne
    | cons s ss =>
      obtain ⟨t, ht⟩ := exists_writtenSubject (hs s List.mem_cons_self)
      have hcomma : CommaWithin Blanks [','] := ⟨[], [], blanks_nil, blanks_nil, rfl⟩
      obtain ⟨u, hu, hapart⟩ := exists_behind hcomma
        (fun t s => blanks_nil.apart (by decide : isNameChar ',' = false) t s)
        fun s' hs' => exists_writtenSubject (hs s' (List.mem_cons_of_mem s hs'))
      exact ⟨_, .direct blanks_nil ht (hapart t) hu blanks_nil⟩
  | computed relation => exact ⟨_, .computed (by simpa [NodeIsWritable] using h)⟩
  | fromTupleset tupleset relation =>
    simp only [Rule.forall_nodes_fromTupleset, NodeIsWritable] at h
    exact ⟨_, .fromTupleset h.2 gap_space gap_space h.1⟩
  | union children ih =>
    simp only [Rule.forall_nodes_union, NodeIsWritable] at h
    obtain ⟨hlen, hes⟩ := h
    have htexts : ∀ d ∈ children, ∃ t, Written .conjunction d t :=
      fun d hd => (ih d hd (hes d hd)).imp fun _ => .operand
    obtain ⟨e, e', es, t, u, rfl, ht, hapart, hu⟩ := exists_operands ['o', 'r'] hlen htexts
    exact (Written.disjunction (.union ht hapart hu)).in_parentheses
  | intersection children ih =>
    simp only [Rule.forall_nodes_intersection, NodeIsWritable] at h
    obtain ⟨hlen, hes⟩ := h
    have htexts : ∀ d ∈ children, ∃ t, Written .operand d t := fun d hd => ih d hd (hes d hd)
    obtain ⟨e, e', es, t, u, rfl, ht, hapart, hu⟩ := exists_operands ['a', 'n', 'd'] hlen htexts
    exact (Written.disjunction (.conjunction (.intersection ht hapart hu))).in_parentheses
  | difference base subtract ihb ihs =>
    simp only [Rule.forall_nodes_difference, NodeIsWritable, true_and] at h
    obtain ⟨t, ht⟩ := ihb h.1
    obtain ⟨u, hu⟩ := ihs h.2
    exact (Written.difference (.conjunction (.operand ht)) gap_space gap_space gap_space
      hu).in_parentheses

/-! ### Texts of definitions -/

theorem exists_writtenType {t : TypeDefinition} (hn : IsName t.name)
    (hr : ∀ r ∈ t.relations, IsName r.name)
    (hnodes : ∀ r ∈ t.relations, ∀ n ∈ r.rule.nodes, NodeIsWritable n) :
    ∃ s, WrittenType t s := by
  obtain ⟨name, relations⟩ := t
  have hrelations : ∀ r ∈ relations, ∃ s, WrittenRelation r s := by
    intro r hmem
    obtain ⟨s, hs⟩ := exists_written (hnodes r hmem)
    exact ⟨_, .mk gap_space (hr r hmem) blanks_nil blanks_nil
      (.disjunction (.conjunction (.operand hs)))⟩
  obtain ⟨u, hu⟩ := exists_sequence hrelations
  exact ⟨_, .withRelations gap_space hn layout_newline (by simp) layout_newline hu⟩

theorem exists_writtenCondition {c : Condition} (hn : IsName c.name)
    (hbody : IsConditionBody c.expression)
    (hp : ∀ p ∈ c.parameters, IsName p.1 ∧ IsParameterType p.2) :
    ∃ s, WrittenCondition c s := by
  obtain ⟨name, body, parameters⟩ := c
  have hparameters : ∀ p ∈ parameters, ∃ s, WrittenParameter p s := fun p hmem =>
    ⟨_, .mk (hp p hmem).1 blanks_nil blanks_nil (hp p hmem).2⟩
  have hlist : ∃ t, WrittenParameters parameters t := by
    cases parameters with
    | nil => exact ⟨_, .empty .nil⟩
    | cons p ps =>
      obtain ⟨t, ht⟩ := hparameters p List.mem_cons_self
      have hcomma : CommaWithin Layout [','] := ⟨[], [], .nil, .nil, rfl⟩
      obtain ⟨u, hu, hapart⟩ := exists_behind hcomma
        (fun t s => blanks_nil.apart (by decide : isNameChar ',' = false) t s)
        fun q hq => hparameters q (List.mem_cons_of_mem p hq)
      exact ⟨_, .list .nil ht (hapart t) hu .nil⟩
  obtain ⟨t, ht⟩ := hlist
  have hpad : ∀ c ∈ ([] : List Char), Text.isBlank c = true := by simp
  exact ⟨_, .mk gap_space hn blanks_nil ht .nil hbody hpad hpad⟩

/-- Every model that can be written has a text. -/
theorem exists_writtenModel {m : Model} (h : m.IsWritable) : ∃ s, WrittenModel m s := by
  obtain ⟨id, version, types, conditions⟩ := m
  obtain rfl : id = none := h.id
  have htypes : ∀ i ∈ types.map Item.type, ∃ s, WrittenItem i s := by
    intro i hi
    obtain ⟨t, ht, rfl⟩ := List.mem_map.mp hi
    obtain ⟨s, hs⟩ := exists_writtenType (h.typeNames t ht) (h.relationNames t ht) (h.nodes t ht)
    exact ⟨s, .type hs⟩
  have hconditions : ∀ i ∈ conditions.map Item.condition, ∃ s, WrittenItem i s := by
    intro i hi
    obtain ⟨c, hc, rfl⟩ := List.mem_map.mp hi
    obtain ⟨s, hs⟩ := exists_writtenCondition (h.conditionNames c hc) (h.conditionBodies c hc)
      (h.parameters c hc)
    exact ⟨s, .condition hs⟩
  have hitems : ∀ i ∈ types.map Item.type ++ conditions.map Item.condition,
      ∃ s, WrittenItem i s :=
    fun i hi => (List.mem_append.mp hi).elim (htypes i) (hconditions i)
  obtain ⟨u, hu⟩ := exists_sequence hitems
  refine ⟨_, .mk .nil (.mk layout_newline gap_space h.version) layout_newline hu (Or.inl rfl) ?_ ?_⟩
  · simp [List.filterMap_map, Function.comp_def, Item.type?]
  · simp [List.filterMap_map, Function.comp_def, Item.condition?]

end Language

open Relata.Language

/-- **A model is read back from each of its texts**, and a model that can be written has one. -/
theorem parse_writtenModel {m : Model} (h : m.IsWritable) :
    (∃ text : String, WrittenModel m text.toList) ∧
      ∀ text : String, WrittenModel m text.toList → Model.parse text = .ok m := by
  constructor
  · obtain ⟨s, hs⟩ := exists_writtenModel h
    exact ⟨String.ofList s, by rwa [String.toList_ofList]⟩
  · intro text htext
    rw [Model.parse, htext.model_eq]

/-- Folders that can be viewed through their parents. -/
def folders : Model where
  id := none
  schemaVersion := "1.1"
  types :=
    [⟨"user", []⟩,
      ⟨"folder",
        [⟨"parent", .direct [⟨"folder", .object, none⟩]⟩,
          ⟨"or_view", .difference
            (.union [.direct [⟨"user", .wildcard, none⟩, ⟨"user", .object, some "recent"⟩],
              .intersection [.computed "and-1", .fromTupleset "parent" "or_view"]])
            (.computed "not_typed")⟩]⟩]
  conditions := [⟨"recent", "age < [\x7b0\x7d][0]", [("age", "int")]⟩]

/-- The folders with a condition before the types, line ends only where they are needed, and more
parentheses than are needed. -/
def foldersText : List Char :=
  "# folders\r\nmodel\n schema 1.1\n".toList ++
    "condition recent(age: int) ".toList ++ "\x7b age < [\x7b0\x7d][0] \x7d".toList ++
    "type user\ntype\tfolder relations# of folders\n".toList ++ "define parent:[folder]".toList ++
    "define or_view : (([user:*, user with recent]".toList ++
    "or and-1 and or_view\tfrom parent)) ".toList ++ "but not not_typed # end".toList

theorem parse_foldersText :
    folders.IsWritable ∧ Model.parse (String.ofList foldersText) = .ok folders := by
  have hm : folders.IsWritable :=
    { id := rfl
      version := by decide
      typeNames := by decide
      relationNames := by decide
      nodes := by decide
      conditionNames := by decide
      conditionBodies := by decide
      parameters := by
        simp only [folders, List.mem_singleton, forall_eq]
        exact ⟨by decide, "int".toList, [], rfl, by decide, by decide, .inl rfl⟩ }
  have hspace : Blanks [' '] := gap_space.1
  have htitle : Layout ('#' :: (" folders".toList ++ '\r' :: ['\n'])) :=
    .comment (by decide) (by decide) layout_newline
  have hheader : WrittenHeader "1.1" _ :=
    .mk (.spacing (by decide) hspace.layout : Layout ['\n', ' ']) gap_space (by decide)
  -- the condition
  have hparameter : WrittenParameter ("age", "int") _ :=
    .mk (by decide) blanks_nil hspace ⟨"int".toList, [], rfl, by decide, by decide, .inl rfl⟩
  have hcondition : WrittenCondition ⟨"recent", "age < [\x7b0\x7d][0]", [("age", "int")]⟩ _ :=
    .mk gap_space (by decide) blanks_nil (.list .nil hparameter (by decide) .nil .nil)
      hspace.layout (by decide) (by decide : ∀ c ∈ [' '], _) (by decide : ∀ c ∈ [' '], _)
  -- the types
  have huser : WrittenType ⟨"user", []⟩ _ := .bare gap_space (by decide)
  have hparent : WrittenRelation ⟨"parent", .direct [⟨"folder", .object, none⟩]⟩ _ :=
    .mk gap_space (by decide) blanks_nil blanks_nil (.disjunction (.conjunction (.operand
      (.direct blanks_nil (.plain (by decide) trivial) (by decide) .nil blanks_nil))))
  have hassigned : Written .operand
      (.direct [⟨"user", .wildcard, none⟩, ⟨"user", .object, some "recent"⟩]) _ :=
    .direct blanks_nil (.plain (by decide) trivial) (by decide)
      (.cons ⟨[], [' '], blanks_nil, hspace, rfl⟩
        (.conditional (by decide) trivial gap_space gap_space (by decide)) (by decide) .nil)
      blanks_nil
  have hfrom : Written .operand (.fromTupleset "parent" "or_view") _ :=
    .fromTupleset (by decide) (by decide : Gap ['\t']) gap_space (by decide)
  have hboth : Written .conjunction
      (.intersection [.computed "and-1", .fromTupleset "parent" "or_view"]) _ :=
    .intersection (.computed (by decide)) (by decide)
      (.cons (operatorText_spaced ['a', 'n', 'd']) hfrom (by decide) .nil)
  have hunion : Written .disjunction (.union [.direct _, .intersection _]) _ :=
    .union (.operand hassigned) (by decide)
      (.cons ⟨[], [' '], blanks_nil, gap_space, rfl⟩ hboth (by decide) .nil)
  have honce : Written .operand (.union [.direct _, .intersection _]) _ :=
    .parenthesized blanks_nil (.disjunction hunion) blanks_nil
  have htwice : Written .operand (.union [.direct _, .intersection _]) _ :=
    .parenthesized blanks_nil (.disjunction (.conjunction (.operand honce))) blanks_nil
  have hview : WrittenRelation ⟨"or_view", .difference (.union [.direct _, .intersection _])
      (.computed "not_typed")⟩ _ :=
    .mk gap_space (by decide) hspace hspace (.difference (.conjunction (.operand htwice))
      gap_space gap_space gap_space (.computed (by decide)))
  have hfolder : WrittenType ⟨"folder", [⟨"parent", _⟩, ⟨"or_view", _⟩]⟩ _ :=
    .withRelations (by decide : Gap ['\t']) (by decide) hspace.layout (by decide)
      (.comment (by decide) (by decide) .nil : Layout ('#' :: (" of folders".toList ++ ['\n'])))
      (.cons hparent .nil (by decide) (.cons hview hspace.layout (by decide) .nil))
  have htext : WrittenModel folders _ :=
    .mk htitle hheader layout_newline
      (.cons (.condition hcondition) .nil (by decide)
        (.cons (.type huser) layout_newline (by decide)
          (.cons (.type hfolder) .nil (by decide) .nil)))
      (.inr ⟨" end".toList, by decide, rfl⟩) rfl rfl
  have hsame : WrittenModel folders (String.ofList foldersText).toList := by
    rw [String.toList_ofList]
    refine (congrArg (WrittenModel folders) ?_).mpr htext
    decide +kernel
  exact ⟨hm, (parse_writtenModel hm).2 _ hsame⟩

end Relata
