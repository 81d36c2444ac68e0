import Mathlib.Logic.Function.Iterate
import Relata.Proofs.Language.Taken.Model

/-!
# Reading ends on every text

Whatever is read is taken off the front of the text, and it is never nothing: what is left is an end
of the text, and shorter. A loop that reads until it cannot read any more therefore runs out of text
at some time, and an expression in parentheses is read from a shorter text than the expression
around it. Neither depends on whether the text is a model.

## Main definitions

* `IsProperEnd` — a shorter end of a text.
* `Advances` — a reader leaves a shorter end of every text that it reads from.
* `IsReader` — the readers of the model language, and what its loops repeat.
* `Repeats` — a loop that ends, turn by turn.
* `AgreeBelow` — two readers do the same with all shorter texts.

## Main results

* `IsReader.advances` — every reader advances.
* `Advances.repeats_iff` — every loop over it ends.
* `agreeBelow_iterate` — parentheses nest less deep than the text is long.
* `reading_ends` — **reading ends on every text.**
-/

namespace Relata.Language

/-! ### Ends of a text -/

/-- An end of a text, and shorter than the text. -/
def IsProperEnd (rest s : List Char) : Prop := rest <:+ s ∧ rest.length < s.length

theorem isProperEnd_append {t : List Char} (h : t ≠ []) (rest : List Char) :
    IsProperEnd rest (t ++ rest) := by
  refine ⟨List.suffix_append t rest, ?_⟩
  have := List.length_pos_iff.mpr h
  rw [List.length_append]
  omega

section Ends

variable {r s t : List Char}

theorem IsProperEnd.trans_suffix (h : IsProperEnd s t) (hr : r <:+ s) : IsProperEnd r t :=
  ⟨hr.trans h.1, Nat.lt_of_le_of_lt hr.length_le h.2⟩

theorem IsProperEnd.suffix_trans (h : IsProperEnd r s) (hs : s <:+ t) : IsProperEnd r t :=
  ⟨h.1.trans hs, Nat.lt_of_lt_of_le h.2 hs.length_le⟩

theorem spaces_suffix (s : List Char) : spaces s <:+ s := List.dropWhile_suffix _

theorem layout_suffix (s : List Char) : layout s <:+ s := by
  obtain ⟨b, comment, hs, -, -⟩ := layout_split s
  exact ⟨b ++ comment, hs.symm⟩

theorem isProperEnd_of_spaces₁ (h : spaces₁ s = some t) : IsProperEnd t s := by
  obtain ⟨b, ⟨-, hne⟩, rfl⟩ := spaces₁_split h
  exact isProperEnd_append hne t

theorem isProperEnd_of_expect {w : Char} {word : List Char} (h : expect (w :: word) s = some t) :
    IsProperEnd t s := by
  rw [expect_split h]
  exact isProperEnd_append (List.cons_ne_nil w word) t

/-- What follows layout starts with neither layout nor a comment. -/
theorem notMem_of_head_layout (s : List Char) :
    ∀ c ∈ (layout s).head?, c ∉ [' ', '\t', '\r', '\n', '#'] := by
  intro c hc
  rcases layout_eq_nil_or_solid s with h | ⟨d, u, h, hspacing, hhash⟩
  · rw [h] at hc
    contradiction
  · rw [h] at hc
    obtain rfl := Option.some.inj hc
    simp only [isSpacing, Bool.or_eq_false_iff, decide_eq_false_iff_not] at hspacing
    simp only [List.mem_cons, List.not_mem_nil, or_false, not_or]
    exact ⟨hspacing.1.1.1, hspacing.1.1.2, hspacing.1.2, hspacing.2, hhash⟩

end Ends

/-! ### Readers that advance -/

section Advances

variable {α : Type} {p : Parser α}

/-- A reader that leaves a shorter end of every text that it reads from. -/
def Advances (p : Parser α) : Prop := ∀ ⦃s a rest⦄, p s = some (a, rest) → IsProperEnd rest s

/-- A reader that takes something off the front advances. -/
theorem advances_of_split
    (h : ∀ {s a rest}, p s = some (a, rest) → ∃ t, s = t ++ rest ∧ t ≠ []) : Advances p := by
  intro s a rest hs
  obtain ⟨t, rfl, hne⟩ := h hs
  exact isProperEnd_append hne rest

theorem Takes.advances {W : α → List Char → Prop} {F : List Char → Prop} (hp : Takes W F p) :
    Advances p := by
  refine advances_of_split fun h => ?_
  obtain ⟨t, hs, ht, -⟩ := hp.split h
  exact ⟨t, hs, hp.ne_nil ht⟩

theorem Advances.withLayout (hp : Advances p) : Advances (withLayout p) := by
  intro s a rest h
  obtain ⟨s', hs', rfl⟩ := withLayout_split h
  exact (hp hs').trans_suffix (layout_suffix s')

/-- A separator in front of an element takes nothing back. -/
theorem Advances.afterSeparator (hp : Advances p) {readSep : List Char → Option (List Char)}
    (hsep : ∀ {s t}, readSep s = some t → t <:+ s) : Advances fun s => readSep s >>= p := by
  intro s a rest h
  rw [Option.bind_eq_bind, Option.bind_eq_some_iff] at h
  obtain ⟨t, ht, h⟩ := h
  exact (hp h).suffix_trans (hsep ht)

theorem suffix_of_many (hp : Advances p) (s : List Char) : (many p s).2 <:+ s := by
  fun_induction many p s with
  | case1 s hnone => exact List.suffix_refl s
  | case2 s a rest hstep hlt as last hmany ih =>
    rw [hmany] at ih
    exact ih.trans (hp hstep).1
  | case3 s a rest hstep hlt => exact List.suffix_refl s

theorem suffix_of_optionally (hp : Advances p) (s : List Char) : (optionally p s).2 <:+ s := by
  rw [optionally]
  split
  · next a rest hread => exact (hp hread).1
  · exact List.suffix_refl s

end Advances

theorem isProperEnd_of_commaBetween {skip : List Char → List Char} (hskip : ∀ s, skip s <:+ s)
    {s t : List Char} (h : commaBetween skip s = some t) : IsProperEnd t s := by
  simp only [commaBetween, Option.bind_eq_bind, Option.bind_eq_some_iff] at h
  obtain ⟨s₁, h₁, h⟩ := h
  obtain rfl : skip s₁ = t := by simpa using h
  have hcomma := (isProperEnd_of_expect h₁).suffix_trans (hskip s)
  exact hcomma.trans_suffix (hskip s₁)

theorem suffix_of_operator {word s t : List Char} (h : operator word s = some t) : t <:+ s := by
  obtain ⟨b, -, rfl⟩ := operator_split h
  exact List.suffix_append b t

/-! ### Layout piece by piece -/

theorem isProperEnd_of_comment {s t : List Char} (h : comment s = some t) : IsProperEnd t s := by
  unfold comment at h
  split at h
  · next u =>
    obtain rfl : u.dropWhile (!isLineEnd ·) = t := by simpa using h
    have hhash : IsProperEnd u ('#' :: u) := isProperEnd_append (List.cons_ne_nil '#' []) u
    exact hhash.trans_suffix (List.dropWhile_suffix _)
  · contradiction

/-- A piece of layout: all blanks and line ends that there are, or a comment. -/
def layoutPiece : Parser Unit := fun s =>
  ((chars₁ isSpacing s).map fun (_, rest) => ((), rest)).or
    ((comment s).map fun rest => ((), rest))

/-- Behind a piece of layout the same layout is left. -/
theorem layoutPiece_split {s rest : List Char} {u : Unit} (h : layoutPiece s = some (u, rest)) :
    IsProperEnd rest s ∧ layout s = layout rest := by
  simp only [layoutPiece, Option.or_eq_some_iff, Option.map_eq_some_iff] at h
  rcases h with ⟨⟨cs, s'⟩, hchars, h⟩ | ⟨-, s', hcomment, h⟩
  · obtain rfl : s' = rest := (Prod.mk.inj h).2
    obtain ⟨rfl, hne, hspacing, -⟩ := chars₁_split hchars
    exact ⟨isProperEnd_append hne s', (layout_of_isSpacing hspacing).layout_append s'⟩
  · obtain ⟨-, rfl⟩ := Prod.mk.inj h
    exact ⟨isProperEnd_of_comment hcomment, layout_comment hcomment⟩

theorem advances_layoutPiece : Advances layoutPiece := fun _ _ _ h => (layoutPiece_split h).1

/-- Where no piece of layout starts, there is no layout. -/
theorem layout_eq_self_of_layoutPiece {s : List Char} (h : layoutPiece s = none) :
    layout s = s := by
  apply layout_eq_self
  intro c hc
  cases s with
  | nil => contradiction
  | cons d s =>
    obtain rfl := Option.some.inj hc
    simp only [layoutPiece, Option.or_eq_none_iff, Option.map_eq_none_iff] at h
    obtain ⟨hchars, hcomment⟩ := h
    constructor
    · cases hspacing : isSpacing d with
      | false => rfl
      | true =>
        rw [chars₁, List.takeWhile_cons_of_pos hspacing] at hchars
        contradiction
    · rintro rfl
      contradiction

/-- Layout is skipped piece by piece. -/
theorem many_layoutPiece (s : List Char) : (many layoutPiece s).2 = layout s := by
  fun_induction many layoutPiece s with
  | case1 s hnone => exact (layout_eq_self_of_layoutPiece hnone).symm
  | case2 s a rest hstep hlt as last hmany ih =>
    rw [(layoutPiece_split hstep).2, ← ih, hmany]
  | case3 s a rest hstep hlt => exact absurd (layoutPiece_split hstep).1.2 hlt

/-! ### Expressions

Each level of binding advances if what reads an expression inside parentheses does. -/

section Expressions

variable {inner p : Parser Rule}

theorem Advances.parenthesized (hinner : Advances inner) : Advances (parenthesized inner) := by
  intro s e rest h
  simp only [Language.parenthesized, Option.bind_eq_bind, Option.bind_eq_some_iff] at h
  obtain ⟨s₁, h₁, ⟨e', s₂⟩, h₂, s₃, h₃, h⟩ := h
  obtain ⟨rfl, rfl⟩ : e' = e ∧ s₃ = rest := by simpa using h
  have hclose : s₃ <:+ s₂ := (isProperEnd_of_expect h₃).1.trans (spaces_suffix s₂)
  have hread : s₂ <:+ s₁ := (hinner h₂).1.trans (spaces_suffix s₁)
  exact (isProperEnd_of_expect h₁).trans_suffix (hclose.trans hread)

theorem advances_typeRestriction : Advances typeRestriction := by
  refine advances_of_split fun h => ?_
  obtain ⟨t, hs, ht, -⟩ := typeRestriction_split h
  exact ⟨t, hs, ht.solid.ne_nil⟩

theorem advances_tupleToUserset : Advances tupleToUserset := by
  refine advances_of_split fun h => ?_
  obtain ⟨t, hs, ht, -⟩ := tupleToUserset_split h
  exact ⟨t, hs, ht.solid.ne_nil⟩

theorem advances_computedUserset : Advances computedUserset := by
  refine advances_of_split fun h => ?_
  obtain ⟨t, hs, ht, -⟩ := computedUserset_split h
  exact ⟨t, hs, ht.solid.ne_nil⟩

theorem Advances.operand (hinner : Advances inner) : Advances (operand inner) := by
  intro s e rest h
  simp only [Language.operand, orElse, Option.or_eq_some_iff] at h
  rcases h with h | ⟨-, h | ⟨-, h | ⟨-, h⟩⟩⟩
  · exact advances_typeRestriction h
  · exact hinner.parenthesized h
  · exact advances_tupleToUserset h
  · exact advances_computedUserset h

theorem Advances.behind (hp : Advances p) (word : List Char) : Advances (behind word p) := by
  rw [behind_eq_bind]
  exact hp.afterSeparator suffix_of_operator

theorem Advances.level (hp : Advances p) (word : List Char) (join : List Rule → Rule) :
    Advances (level word join p) := by
  intro s e rest h
  simp only [Language.level, Option.bind_eq_bind, Option.bind_eq_some_iff] at h
  obtain ⟨⟨first, s₁⟩, hfirst, h⟩ := h
  refine (hp hfirst).trans_suffix ?_
  have hmany := suffix_of_many (hp.behind word) s₁
  split at h
  all_goals
    next heq =>
      obtain ⟨-, rfl⟩ := Prod.mk.inj (Option.some.inj h)
      rwa [heq] at hmany

theorem Advances.intersectionLevel (hinner : Advances inner) :
    Advances (intersectionLevel inner) :=
  hinner.operand.level _ _

theorem Advances.unionLevel (hinner : Advances inner) : Advances (unionLevel inner) :=
  hinner.intersectionLevel.level _ _

theorem Advances.butNot (hinner : Advances inner) : Advances (butNot inner) := by
  intro s e rest h
  simp only [Language.butNot, Option.bind_eq_bind, Option.bind_eq_some_iff] at h
  obtain ⟨s₁, h₁, s₂, h₂, s₃, h₃, s₄, h₄, s₅, h₅, h₆⟩ := h
  have hbut : s₃ <:+ s₁ := (isProperEnd_of_spaces₁ h₃).1.trans (isProperEnd_of_expect h₂).1
  have hnot : s₅ <:+ s₃ := (isProperEnd_of_spaces₁ h₅).1.trans (isProperEnd_of_expect h₄).1
  have hread : rest <:+ s₅ := (hinner.operand h₆).1
  exact (isProperEnd_of_spaces₁ h₁).trans_suffix (hread.trans (hnot.trans hbut))

theorem Advances.expressionWith (hinner : Advances inner) : Advances (expressionWith inner) := by
  intro s e rest h
  simp only [Language.expressionWith, Option.bind_eq_bind, Option.bind_eq_some_iff] at h
  obtain ⟨⟨base, s₁⟩, hbase, h⟩ := h
  refine (hinner.unionLevel hbase).trans_suffix ?_
  have hbut := suffix_of_optionally hinner.butNot s₁
  split at h
  all_goals
    next heq =>
      obtain ⟨-, rfl⟩ := Prod.mk.inj (Option.some.inj h)
      rwa [heq] at hbut

theorem advances_expressionWithin (depth : Nat) : Advances (expressionWithin depth) := by
  induction depth with
  | zero => exact fun _ _ _ h => absurd h (by simp [expressionWithin])
  | succ depth ih => exact ih.expressionWith

theorem advances_expression : Advances expression :=
  fun _ _ _ h => advances_expressionWithin _ h

end Expressions

/-! ### Definitions -/

theorem advances_identifier : Advances identifier := by
  refine advances_of_split fun h => ?_
  obtain ⟨hs, hn, -⟩ := identifier_split h
  exact ⟨_, hs, hn.ne_nil⟩

theorem advances_relationDefinition : Advances relationDefinition := by
  refine advances_of_split fun h => ?_
  obtain ⟨b, t, hs, -, ht, -⟩ := relationDefinition_split h
  obtain ⟨u, rfl⟩ := ht.start
  exact ⟨_, hs, by simp⟩

theorem advances_typeDefinition : Advances typeDefinition := by
  refine advances_of_split fun h => ?_
  obtain ⟨x, b, comment, hs, hx, -⟩ := typeDefinition_split h
  obtain ⟨u, rfl⟩ := hx.start
  exact ⟨_, hs, by simp⟩

theorem advances_parameterType : Advances parameterType := by
  refine advances_of_split fun h => ?_
  obtain ⟨hs, htype⟩ := parameterType_split h
  exact ⟨_, hs, htype.solid.ne_nil⟩

theorem advances_bracedBlock : Advances bracedBlock := by
  refine advances_of_split fun h => ?_
  obtain ⟨pad₁, pad₂, hs, -⟩ := bracedBlock_split h
  exact ⟨_, hs, by simp⟩

theorem advances_conditionDefinition : Advances conditionDefinition := by
  refine advances_of_split fun h => ?_
  obtain ⟨t, hs, ht⟩ := conditionDefinition_split h
  obtain ⟨u, rfl⟩ := ht.start
  exact ⟨_, hs, List.cons_ne_nil 'c' u⟩

theorem advances_modelHeader : Advances modelHeader := by
  refine advances_of_split fun h => ?_
  obtain ⟨b₁, b₂, hs, -⟩ := modelHeader_split h
  exact ⟨_, hs, by simp⟩

theorem advances_item : Advances item := by
  intro s i rest h
  simp only [item, orElse, Option.or_eq_some_iff, Option.map_eq_some_iff] at h
  rcases h with ⟨⟨t, s'⟩, ht, h⟩ | ⟨-, ⟨c, s'⟩, hc, h⟩
  · obtain ⟨-, rfl⟩ := Prod.mk.inj h
    exact advances_typeDefinition ht
  · obtain ⟨-, rfl⟩ := Prod.mk.inj h
    exact advances_conditionDefinition hc

/-- The readers of the model language that can fail, each level of binding for every reader of what
stands in parentheses, and what its loops repeat: a piece of layout, an element with the layout
behind it, and an element behind an operator or a comma. -/
inductive IsReader : {α : Type} → Parser α → Prop
  | comment : IsReader fun s => (comment s).map fun rest => ((), rest)
  | layoutPiece : IsReader layoutPiece
  | identifier : IsReader identifier
  | subjectReference : IsReader subjectReference
  | typeRestriction : IsReader typeRestriction
  | parenthesized {inner : Parser Rule} : IsReader inner → IsReader (parenthesized inner)
  | tupleToUserset : IsReader tupleToUserset
  | computedUserset : IsReader computedUserset
  | operand {inner : Parser Rule} : IsReader inner → IsReader (operand inner)
  | intersectionLevel {inner : Parser Rule} : IsReader inner → IsReader (intersectionLevel inner)
  | unionLevel {inner : Parser Rule} : IsReader inner → IsReader (unionLevel inner)
  | expressionWith {inner : Parser Rule} : IsReader inner → IsReader (expressionWith inner)
  | expressionWithin (depth : Nat) : IsReader (expressionWithin depth)
  | expression : IsReader expression
  | relationDefinition : IsReader relationDefinition
  | typeDefinition : IsReader typeDefinition
  | parameterType : IsReader parameterType
  | conditionParameter : IsReader conditionParameter
  | bracedBlock : IsReader bracedBlock
  | conditionDefinition : IsReader conditionDefinition
  | item : IsReader item
  | modelHeader : IsReader modelHeader
  | withLayout {α : Type} {p : Parser α} : IsReader p → IsReader (withLayout p)
  | behind {p : Parser Rule} (word : List Char) : IsReader p → IsReader (behind word p)
  | afterComma {α : Type} {p : Parser α} : IsReader p → IsReader fun s => comma s >>= p
  | afterLayoutComma {α : Type} {p : Parser α} :
      IsReader p → IsReader fun s => layoutComma s >>= p

/-- **Every reader advances.** -/
theorem IsReader.advances {α : Type} {p : Parser α} (h : IsReader p) : Advances p := by
  induction h with
  | comment =>
    intro s u rest h
    obtain ⟨s', hs', h⟩ := Option.map_eq_some_iff.mp h
    obtain ⟨-, rfl⟩ := Prod.mk.inj h
    exact isProperEnd_of_comment hs'
  | layoutPiece => exact advances_layoutPiece
  | identifier => exact advances_identifier
  | subjectReference => exact takes_subject.advances
  | typeRestriction => exact advances_typeRestriction
  | parenthesized _ ih => exact ih.parenthesized
  | tupleToUserset => exact advances_tupleToUserset
  | computedUserset => exact advances_computedUserset
  | operand _ ih => exact ih.operand
  | intersectionLevel _ ih => exact ih.intersectionLevel
  | unionLevel _ ih => exact ih.unionLevel
  | expressionWith _ ih => exact ih.expressionWith
  | expressionWithin depth => exact advances_expressionWithin depth
  | expression => exact advances_expression
  | relationDefinition => exact advances_relationDefinition
  | typeDefinition => exact advances_typeDefinition
  | parameterType => exact advances_parameterType
  | conditionParameter => exact takes_parameter.advances
  | bracedBlock => exact advances_bracedBlock
  | conditionDefinition => exact advances_conditionDefinition
  | item => exact advances_item
  | modelHeader => exact advances_modelHeader
  | withLayout _ ih => exact ih.withLayout
  | behind word _ ih => exact ih.behind word
  | afterComma _ ih =>
    exact ih.afterSeparator fun h => (isProperEnd_of_commaBetween spaces_suffix h).1
  | afterLayoutComma _ ih =>
    exact ih.afterSeparator fun h => (isProperEnd_of_commaBetween layout_suffix h).1

/-! ### Loops -/

section Loops

variable {α : Type} {p : Parser α}

/-- Reading with `p` from `s` on, for as long as `p` succeeds, ends in front of `last` after the
elements `as`. Nothing is asked of what a turn takes: a loop that runs forever has no such turns. -/
inductive Repeats (p : Parser α) : List Char → List α → List Char → Prop
  | stop {s : List Char} : p s = none → Repeats p s [] s
  | turn {s rest last : List Char} {a : α} {as : List α} :
      p s = some (a, rest) → Repeats p rest as last → Repeats p s (a :: as) last

/-- **A loop over a reader that advances ends**, and where it does is what repetition gives. -/
theorem Advances.repeats_iff (hp : Advances p) {s last : List Char} {as : List α} :
    Repeats p s as last ↔ many p s = (as, last) := by
  constructor
  · intro h
    induction h with
    | stop hnone => exact many_eq_nil hnone
    | turn hstep _ ih => rw [many_eq_cons hstep (hp hstep).2, ih]
  · intro h
    fun_induction many p s generalizing as with
    | case1 s hnone =>
      obtain ⟨rfl, rfl⟩ := Prod.mk.inj h
      exact .stop hnone
    | case2 s a rest hstep hlt bs last' hmany ih =>
      obtain ⟨rfl, rfl⟩ := Prod.mk.inj h
      exact .turn hstep (ih hmany)
    | case3 s a rest hstep hlt => exact absurd (hp hstep).2 hlt

/-- Where a first element is read, a list is read up to where its loop ends. -/
theorem Advances.separated_eq {sep : List Char → Option (List Char)}
    (hp : Advances fun t => sep t >>= p) {s rest : List Char} {a : α} (h : p s = some (a, rest)) :
    ∃ as last, separated sep p s = some (a :: as, last) ∧
      Repeats (fun t => sep t >>= p) rest as last := by
  refine ⟨_, _, ?_, hp.repeats_iff.mpr rfl⟩
  rw [separated, h, Option.bind_eq_bind, Option.bind_some]
  rfl

end Loops

/-! ### Parentheses -/

section Parentheses

variable {α : Type} {n : Nat}

/-- Two readers do the same with all texts of less than `n` characters. -/
def AgreeBelow (n : Nat) (p q : Parser α) : Prop := ∀ s, s.length < n → p s = q s

theorem AgreeBelow.many {p q : Parser α} (h : AgreeBelow n p q) {s : List Char}
    (hs : s.length < n) : many p s = many q s := by
  fun_induction Language.many p s with
  | case1 s hnone => rw [many_eq_nil (by rw [← h s hs, hnone])]
  | case2 s a rest hstep hlt as last hmany ih =>
    rw [many_eq_cons (by rw [← h s hs, hstep]) hlt, ← ih (by omega), hmany]
  | case3 s a rest hstep hlt =>
    rw [h s hs] at hstep
    rw [Language.many, hstep]
    simp only [hlt, if_false]

variable {p q : Parser Rule}

/-- What stands in parentheses is shorter than the text by one of them at least. -/
theorem AgreeBelow.parenthesized (h : AgreeBelow n p q) :
    AgreeBelow (n + 1) (parenthesized p) (parenthesized q) := by
  intro s hs
  unfold Language.parenthesized
  cases hopen : expect ['('] s with
  | none => rfl
  | some s₁ =>
    have hlt := ((isProperEnd_of_expect hopen).trans_suffix (spaces_suffix s₁)).2
    simp only [Option.bind_eq_bind, Option.bind_some, h (spaces s₁) (by omega)]

theorem AgreeBelow.operand (h : AgreeBelow n p q) :
    AgreeBelow (n + 1) (operand p) (operand q) := by
  intro s hs
  simp only [Language.operand, orElse, h.parenthesized s hs]

theorem AgreeBelow.behind (h : AgreeBelow n p q) (word : List Char) :
    AgreeBelow n (behind word p) (behind word q) := by
  intro s hs
  simp only [behind_eq_bind]
  refine Option.bind_congr fun t ht => h t ?_
  have := (suffix_of_operator ht).length_le
  omega

theorem AgreeBelow.level (h : AgreeBelow n p q) (hq : Advances q) (word : List Char)
    (join : List Rule → Rule) : AgreeBelow n (level word join p) (level word join q) := by
  intro s hs
  rw [Language.level, Language.level, h s hs]
  refine Option.bind_congr fun r hr => ?_
  have hlt := (hq hr).2
  simp only [(h.behind word).many (s := r.2) (by omega)]

theorem AgreeBelow.unionLevel (h : AgreeBelow n p q) (hq : Advances q) :
    AgreeBelow (n + 1) (unionLevel p) (unionLevel q) :=
  (h.operand.level hq.operand _ _).level hq.intersectionLevel _ _

theorem AgreeBelow.butNot (h : AgreeBelow n p q) : AgreeBelow (n + 1) (butNot p) (butNot q) := by
  intro s hs
  unfold Language.butNot
  refine Option.bind_congr fun s₁ h₁ => Option.bind_congr fun s₂ h₂ =>
    Option.bind_congr fun s₃ h₃ => Option.bind_congr fun s₄ h₄ =>
      Option.bind_congr fun s₅ h₅ => h.operand s₅ ?_
  have hbut := (isProperEnd_of_spaces₁ h₁).2
  have hnot := (isProperEnd_of_expect h₂).2
  have hlast := (isProperEnd_of_spaces₁ h₃).2
  have hword := (isProperEnd_of_expect h₄).2
  have hgap := (isProperEnd_of_spaces₁ h₅).2
  omega

/-- **A level of parentheses takes a character**: two readers of what stands in them that do the
same with shorter texts make for two readers that do the same with this one. -/
theorem AgreeBelow.expressionWith (h : AgreeBelow n p q) (hq : Advances q) :
    AgreeBelow (n + 1) (expressionWith p) (expressionWith q) := by
  intro s hs
  rw [Language.expressionWith, Language.expressionWith, h.unionLevel hq s hs]
  refine Option.bind_congr fun r hr => ?_
  have hlt := (hq.unionLevel hr).2
  simp only [optionally, h.butNot r.2 (by omega)]

/-- Whatever reads the innermost expressions, `n` levels read the texts of less than `n`
characters. -/
theorem agreeBelow_iterate (bottom : Parser Rule) {m : Nat} (h : n ≤ m) :
    AgreeBelow n (expressionWith^[n] bottom) (expressionWithin m) := by
  induction n generalizing m with
  | zero => exact fun s hs => absurd hs (Nat.not_lt_zero _)
  | succ n ih =>
    obtain ⟨m, rfl⟩ : ∃ k, m = k + 1 := ⟨m - 1, by omega⟩
    rw [Function.iterate_succ_apply']
    exact (ih (by omega)).expressionWith (advances_expressionWithin m)

theorem iterate_expressionWith_eq (bottom : Parser Rule) {s : List Char} (h : s.length < n) :
    expressionWith^[n] bottom s = expression s := by
  -- both read as many levels as there are in the longer of the two
  have hshort := agreeBelow_iterate bottom (Nat.le_refl n) s h
  have hlong := agreeBelow_iterate bottom h s (Nat.lt_succ_self s.length)
  have hself := agreeBelow_iterate bottom (Nat.le_refl (s.length + 1)) s (Nat.lt_succ_self s.length)
  rw [expression, hshort, ← hlong, hself]

/-- **An expression is read as its parts are, with expressions in parentheses**, and no other reader
does the same. -/
theorem expressionWith_eq_iff : expressionWith p = p ↔ p = expression := by
  constructor
  · intro h
    funext s
    rw [← iterate_expressionWith_eq p (Nat.lt_succ_self s.length), Function.iterate_fixed h]
  · rintro rfl
    funext s
    have hbelow : AgreeBelow s.length (expressionWithin s.length) expression := by
      intro t ht
      rw [← agreeBelow_iterate expression (Nat.le_refl s.length) t ht]
      exact iterate_expressionWith_eq expression ht
    exact (hbelow.expressionWith advances_expression s (Nat.lt_succ_self s.length)).symm

end Parentheses

theorem suffix_of_model (s : List Char) : (model s).2 <:+ s := by
  obtain ⟨used, hs, -⟩ := model_split (Prod.eta (model s))
  exact ⟨used, hs.symm⟩

/-- **Reading ends on every text.** Every reader that succeeds leaves a shorter end of the text.
Layout leaves an end that starts with neither layout nor a comment, and a model leaves an end. So
every loop over a reader ends, those over the pieces of layout and over the elements of a list with
commas included. The recursion through parentheses ends as well: as an equation for the reader of
expressions it has one solution, and this is found in one level more than the text has characters,
whatever is put below these levels. -/
theorem reading_ends :
    (∀ {α : Type} {p : Parser α}, IsReader p → ∀ s a rest, p s = some (a, rest) →
      rest <:+ s ∧ rest.length < s.length) ∧
    (∀ s, layout s <:+ s ∧ ∀ c ∈ (layout s).head?, c ∉ [' ', '\t', '\r', '\n', '#']) ∧
    (∀ s, (model s).2 <:+ s) ∧
    (∀ {α : Type} {p : Parser α}, IsReader p → ∀ s as last,
      Repeats p s as last ↔ many p s = (as, last)) ∧
    (∀ s, ∃ pieces, Repeats layoutPiece s pieces (layout s)) ∧
    (∀ {α : Type} {p : Parser α}, IsReader p → ∀ sep, sep = comma ∨ sep = layoutComma →
      ∀ s a rest, p s = some (a, rest) → ∃ as last, separated sep p s = some (a :: as, last) ∧
        Repeats (fun t => sep t >>= p) rest as last) ∧
    (∀ p, expressionWith p = p ↔ p = expression) ∧
    ∀ bottom n s, s.length < n → expressionWith^[n] bottom s = expression s := by
  refine ⟨fun h _ _ _ hs => h.advances hs, fun s => ⟨layout_suffix s, notMem_of_head_layout s⟩,
    suffix_of_model, fun h _ _ _ => h.advances.repeats_iff, fun s => ?_, ?_,
    fun _ => expressionWith_eq_iff, fun bottom _ _ => iterate_expressionWith_eq bottom⟩
  · refine ⟨(many layoutPiece s).1, advances_layoutPiece.repeats_iff.mpr ?_⟩
    rw [← many_layoutPiece s]
  · intro α p h sep hsep s a rest hs
    rcases hsep with rfl | rfl
    · exact h.afterComma.advances.separated_eq hs
    · exact h.afterLayoutComma.advances.separated_eq hs

end Relata.Language
