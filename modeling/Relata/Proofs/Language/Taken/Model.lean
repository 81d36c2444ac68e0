import Relata.Proofs.Language.Taken.Definition

/-!
# What the readers of models take

A model is read up to the first place that is part of no definition. What stands before that place
is a header and definitions with layout behind each, and nothing else. Read on its own, it is read
to the same model: a reader that stopped there has not used what follows, so it stops there again
where the text ends.

A text may have the word `relations` with no relation behind it, right in front of the next word.
This is the one way in which what is read can differ from the texts of `WrittenModel`, so the texts
here keep nothing apart.

## Main definitions

* `BeginsAs` — what may be left of a text that is cut off.
* `Row`, `ReadType`, `ReadModel` — the texts that are taken.
* `TakesRow` — a reader takes a text with the layout behind it, and takes it again where the text is
  cut off.

## Main results

* `TakesRow.many_split` — what a repetition takes.
* `takesRow_relations`, `takesRow_items` — relations and items.
* `model_split` — **what a model takes.**
-/

namespace Relata.Language

/-! ### Texts that are cut off -/

/-- What may be left instead of `rest` where the text is cut off: nothing, or a text that begins as
`rest` does. -/
def BeginsAs (rest rest' : List Char) : Prop := ∀ c ∈ rest'.head?, c ∈ rest.head?

theorem beginsAs_nil (rest : List Char) : BeginsAs rest [] := by simp [BeginsAs]

theorem BeginsAs.append {rest rest' : List Char} (h : BeginsAs rest rest') (t : List Char) :
    BeginsAs (t ++ rest) (t ++ rest') := by
  intro c hc
  cases t with
  | nil => exact h c hc
  | cons d t => exact hc

theorem BeginsAs.head {P : Char → Prop} {rest rest' : List Char} (h : BeginsAs rest rest')
    (hrest : ∀ c ∈ rest.head?, P c) : ∀ c ∈ rest'.head?, P c :=
  fun c hc => hrest c (h c hc)

theorem Apart.beginsAs {t u u' : List Char} (h : Apart t u) (hu : BeginsAs u u') : Apart t u' := by
  intro c hc hname d hd
  exact h c hc hname d (hu d hd)

/-- Where no layout is left, none is left of the text that is cut off. -/
theorem BeginsAs.layout_eq {rest rest' : List Char} (h : BeginsAs rest rest')
    (hrest : layout rest = rest) : layout rest' = rest' := by
  apply layout_eq_self
  intro c hc
  have hhead : c ∈ rest.head? := h c hc
  rcases layout_eq_nil_or_solid rest with hnil | ⟨d, s, hsolid, hd⟩
  · rw [hrest] at hnil
    simp [hnil] at hhead
  · rw [hrest] at hsolid
    obtain rfl : d = c := by simpa [hsolid] using hhead
    exact hd

/-- Layout, and a comment that the text ends in, are skipped as a whole. -/
theorem BeginsAs.layout_append {rest rest' b comment : List Char} (h : BeginsAs rest rest')
    (hrest : layout rest = rest) (hb : Layout b) (hcomment : LastComment comment rest) :
    layout (b ++ comment ++ rest') = rest' := by
  rw [List.append_assoc, hb.layout_append]
  rcases hcomment with rfl | ⟨rfl, body, hbody, rfl⟩
  · exact h.layout_eq hrest
  · -- behind the comment nothing is left, so nothing is left of it
    obtain rfl : rest' = [] := by
      cases rest' with
      | nil => rfl
      | cons c s => simpa using h c rfl
    rw [List.append_nil]
    exact layout_comment_end hbody

/-- Behind layout there is no comment. -/
theorem LastComment.eq_nil_of_layout {comment rest : List Char} (h : LastComment comment rest)
    (hlayout : layout (comment ++ rest) = comment ++ rest) : comment = [] := by
  rcases h with h | ⟨rfl, body, hbody, rfl⟩
  · exact h
  · rw [List.append_nil, layout_comment_end hbody] at hlayout
    contradiction

/-- Behind a comment that the text ends in there is nothing more, so it is the last one: it may as
well stand behind what follows. -/
theorem LastComment.append {comment u last rest : List Char}
    (h : LastComment comment (u ++ last ++ rest)) (hlast : LastComment last rest) :
    LastComment (comment ++ last) rest ∧ ∀ t rest',
      t ++ comment ++ (u ++ last ++ rest') = t ++ u ++ (comment ++ last) ++ rest' := by
  rcases h with rfl | ⟨hnil, hcomment⟩
  · refine ⟨hlast, ?_⟩
    intro t rest'
    simp only [List.append_assoc, List.nil_append]
  · obtain ⟨rfl, rfl, rfl⟩ : u = [] ∧ last = [] ∧ rest = [] := by simpa using hnil
    rw [List.append_nil]
    refine ⟨Or.inr ⟨rfl, hcomment⟩, ?_⟩
    intro t rest'
    simp only [List.append_assoc, List.nil_append]

/-- What a reader takes together with the layout behind it, it takes again where the text is cut off
behind that layout. `P` is what it has to know of the text that follows. -/
theorem exists_taken_again {α : Type} {q : Parser α} {a : α} {t s : List Char}
    {P : List Char → Prop}
    (h : ∀ v, BeginsAs s v → P (layout v) → q (t ++ v) = some (a, layout v)) :
    ∃ b comment, t ++ s = t ++ b ++ comment ++ layout s ∧ Layout b ∧
      LastComment comment (layout s) ∧ layout (layout s) = layout s ∧
      ∀ rest', BeginsAs (layout s) rest' → P rest' →
        q (t ++ b ++ comment ++ rest') = some (a, rest') := by
  obtain ⟨b, comment, hs, hb, hcomment⟩ := layout_split s
  refine ⟨b, comment, ?_, hb, hcomment, layout_layout s, ?_⟩
  · rw [List.append_assoc t, List.append_assoc t, ← hs]
  · intro rest' hbegins hP
    have hskip : layout (b ++ comment ++ rest') = rest' :=
      hbegins.layout_append (layout_layout s) hb hcomment
    have hbehind : BeginsAs s (b ++ comment ++ rest') := by
      rw [hs]
      exact hbegins.append _
    have hread := h _ hbehind (by rwa [hskip])
    rwa [hskip, ← List.append_assoc, ← List.append_assoc] at hread

/-! ### Rows -/

/-- Elements with layout behind each, which need not keep them apart. -/
inductive Row {α : Type} (W : α → List Char → Prop) : List α → List Char → Prop
  | nil : Row W [] []
  | cons {a : α} {as : List α} {t b u : List Char} :
      W a t → Layout b → Row W as u → Row W (a :: as) (t ++ b ++ u)

section Rows

variable {α : Type} {W : α → List Char → Prop} {p : Parser α} {cs : List Char}

theorem Row.exists_of_mem {as : List α} {u : List Char} (h : Row W as u) {a : α} (ha : a ∈ as) :
    ∃ t, W a t := by
  induction h with
  | nil => contradiction
  | cons ht _ _ ih =>
    rcases List.mem_cons.mp ha with rfl | ha
    · exact ⟨_, ht⟩
    · exact ih ha

/-- `x` is read as `a` wherever nothing follows, or what begins as `rest` does and with one of
`cs`. -/
def StaysRead (cs : List Char) (p : Parser α) (a : α) (x rest : List Char) : Prop :=
  ∀ rest', BeginsAs rest rest' → (∀ c ∈ rest'.head?, c ∈ cs) → p (x ++ rest') = some (a, rest')

/-- A reader of elements that start with characters in `cs`. It takes an element and all of the
layout behind it, and takes them again where the text is cut off behind them. -/
structure TakesRow (W : α → List Char → Prop) (p : Parser α) (cs : List Char) : Prop where
  start : ∀ {a t}, W a t → ∃ c s, t = c :: s ∧ c ∈ cs
  split : ∀ {s a rest}, layout s = s → p s = some (a, rest) →
    ∃ t b comment, s = t ++ b ++ comment ++ rest ∧ W a t ∧ Layout b ∧ LastComment comment rest ∧
      layout rest = rest ∧ StaysRead cs p a (t ++ b ++ comment) rest

/-- A row that is not the end of the text starts with one of `cs`. -/
theorem TakesRow.head_mem (hp : TakesRow W p cs) {as : List α} {u comment rest rest' : List Char}
    (hu : Row W as u) (hcomment : LastComment comment rest)
    (hlayout : layout (u ++ comment ++ rest) = u ++ comment ++ rest)
    (hcs : ∀ c ∈ rest'.head?, c ∈ cs) : ∀ c ∈ (u ++ comment ++ rest').head?, c ∈ cs := by
  cases hu with
  | nil =>
    rw [List.nil_append] at hlayout ⊢
    obtain rfl := hcomment.eq_nil_of_layout hlayout
    exact hcs
  | cons ht =>
    obtain ⟨d, s, rfl, hd⟩ := hp.start ht
    intro c hc
    obtain rfl : d = c := by simpa using hc
    exact hd

/-- **What a repetition takes.** It ends where no element can be read, and so it does where the
text is cut off. -/
theorem TakesRow.many_split (hp : TakesRow W p cs) {s rest : List Char} {as : List α}
    (hs : layout s = s) (h : many p s = (as, rest)) :
    ∃ u comment, s = u ++ comment ++ rest ∧ Row W as u ∧ LastComment comment rest ∧
      layout rest = rest ∧ p rest = none ∧
      ∀ rest', BeginsAs rest rest' → (∀ c ∈ rest'.head?, c ∈ cs) → p rest' = none →
        many p (u ++ comment ++ rest') = (as, rest') := by
  fun_induction many p s generalizing as with
  | case1 s hnone =>
    obtain ⟨rfl, rfl⟩ : [] = as ∧ s = rest := by simpa using h
    refine ⟨[], [], rfl, .nil, lastComment_nil s, hs, hnone, ?_⟩
    intro rest' _ _ hstop
    exact many_eq_nil hstop
  | case2 s a s' hstep hlt bs last hmany ih =>
    obtain ⟨rfl, rfl⟩ : a :: bs = as ∧ last = rest := by simpa using h
    obtain ⟨t, b, comment, rfl, ht, hb, hcomment, hs', hstays⟩ := hp.split hs hstep
    obtain ⟨u, lastComment, rfl, hu, hlast, hlayout, hnone, hagain⟩ := ih hs' hmany
    -- the elements that follow are read again, and so is the first one in front of them
    have hmany' : ∀ rest', BeginsAs last rest' → (∀ c ∈ rest'.head?, c ∈ cs) → p rest' = none →
        many p (t ++ b ++ comment ++ (u ++ lastComment ++ rest')) = (a :: bs, rest') := by
      intro rest' hbegins hcs hstop
      have hfirst := hstays _ (hbegins.append (u ++ lastComment)) (hp.head_mem hu hlast hs' hcs)
      have hshort : (u ++ lastComment ++ rest').length <
          (t ++ b ++ comment ++ (u ++ lastComment ++ rest')).length := by
        obtain ⟨c, t, rfl, -⟩ := hp.start ht
        simp only [List.length_append, List.length_cons]
        omega
      rw [many_eq_cons hfirst hshort, hagain rest' hbegins hcs hstop]
    obtain ⟨hlast', hmoved⟩ := hcomment.append hlast
    refine ⟨t ++ b ++ u, comment ++ lastComment, hmoved (t ++ b) last, .cons ht hb hu, hlast',
      hlayout, hnone, ?_⟩
    intro rest'
    rw [← hmoved]
    exact hmany' rest'
  | case3 s a s' hstep hlt =>
    -- an element takes its first character
    obtain ⟨t, b, comment, rfl, ht, -⟩ := hp.split hs hstep
    obtain ⟨c, t, rfl, -⟩ := hp.start ht
    refine absurd ?_ hlt
    simp only [List.length_append, List.length_cons]
    omega

end Rows

/-! ### Relations -/

theorem withLayout_eq_some {α : Type} {p : Parser α} {s rest : List Char} {a : α}
    (h : p s = some (a, rest)) : withLayout p s = some (a, layout rest) := by
  rw [withLayout, h]
  rfl

theorem withLayout_split {α : Type} {p : Parser α} {s rest : List Char} {a : α}
    (h : withLayout p s = some (a, rest)) : ∃ s', p s = some (a, s') ∧ layout s' = rest := by
  rw [withLayout, Option.bind_eq_bind, Option.bind_eq_some_iff] at h
  obtain ⟨⟨a', s'⟩, hread, h⟩ := h
  obtain ⟨rfl, rfl⟩ : a' = a ∧ layout s' = rest := by simpa using h
  exact ⟨s', hread, rfl⟩

theorem takesRow_relations :
    TakesRow WrittenRelation (withLayout relationDefinition) ['d', 't', 'c'] where
  start h := by
    obtain ⟨s, rfl⟩ := h.start
    exact ⟨'d', s, rfl, by decide⟩
  split := by
    intro s r rest hs h
    obtain ⟨s₁, h₁, rfl⟩ := withLayout_split h
    obtain ⟨b₀, t, rfl, hb₀, ht, hapart⟩ := relationDefinition_split h₁
    -- no blanks are left in front of a relation
    obtain rfl : b₀ = [] := by
      cases b₀ with
      | nil => rfl
      | cons c b₀ =>
        have hc : isSpacing c = true := isSpacing_of_isSpace (hb₀ c List.mem_cons_self)
        rcases layout_eq_nil_or_solid (c :: b₀ ++ t ++ s₁) with hnil | ⟨d, u, hsolid, hd, -⟩
        · rw [hs] at hnil
          contradiction
        · rw [hs] at hsolid
          obtain rfl : c = d := by simpa using congrArg List.head? hsolid
          simp [hc] at hd
    obtain ⟨b, comment, hs₁, hb, hcomment, hlayout, hstays⟩ :=
      exists_taken_again (P := fun r => ∀ c ∈ r.head?, c ∈ ['d', 't', 'c']) fun v hv hnext =>
        withLayout_eq_some (ht.append (hapart.beginsAs hv) (NextIn.stops hnext (by decide)))
    exact ⟨t, b, comment, hs₁, ht, hb, hcomment, hlayout, hstays⟩

/-! ### Types -/

/-- The texts that are read as a type. The word `relations` may have no relation behind it. -/
inductive ReadType : TypeDefinition → List Char → Prop
  | bare {n : String} {b : List Char} :
      Gap b → IsName n → ReadType ⟨n, []⟩ (['t', 'y', 'p', 'e'] ++ b ++ n.toList)
  | withRelations {n : String} {rs : List Relation} {b₁ b₂ b₃ u : List Char} :
      Gap b₁ → IsName n → Layout b₂ → b₂ ≠ [] → Layout b₃ → Row WrittenRelation rs u →
      ReadType ⟨n, rs⟩ (['t', 'y', 'p', 'e'] ++ b₁ ++ n.toList ++ b₂ ++
        ['r', 'e', 'l', 'a', 't', 'i', 'o', 'n', 's'] ++ b₃ ++ u)

theorem ReadType.start {t : TypeDefinition} {s : List Char} (h : ReadType t s) :
    ∃ u, s = 't' :: u := by
  cases h with
  | bare => exact ⟨_, rfl⟩
  | withRelations => exact ⟨_, rfl⟩

/-- A section of relations takes the word and a row, and takes them again where the text is cut off
in front of a type, a condition or the end. -/
theorem relationsSection_split {s rest : List Char} {rs : List Relation}
    (h : relationsSection s = some (rs, rest)) :
    ∃ b u comment, s = ['r', 'e', 'l', 'a', 't', 'i', 'o', 'n', 's'] ++ b ++ u ++ comment ++ rest ∧
      Layout b ∧ Row WrittenRelation rs u ∧ LastComment comment rest ∧ layout rest = rest ∧
      StaysRead ['t', 'c'] relationsSection rs
        (['r', 'e', 'l', 'a', 't', 'i', 'o', 'n', 's'] ++ b ++ u ++ comment) rest := by
  simp only [relationsSection, Option.bind_eq_bind, Option.bind_eq_some_iff] at h
  obtain ⟨s₁, h₁, h⟩ := h
  have hmany : many (withLayout relationDefinition) (layout s₁) = (rs, rest) := by simpa using h
  obtain rfl := expect_split h₁
  obtain ⟨b, first, hs₁, hb, hfirst⟩ := layout_split s₁
  obtain ⟨u, last, hs₂, hu, hlast, hlayout, -, hagain⟩ :=
    takesRow_relations.many_split (layout_layout s₁) hmany
  have hs₂' : layout (u ++ last ++ rest) = u ++ last ++ rest := by rw [← hs₂, layout_layout]
  rw [hs₂] at hs₁ hfirst
  -- the section is read again if nothing, a type or a condition follows
  have hread : ∀ rest', BeginsAs rest rest' → (∀ c ∈ rest'.head?, c ∈ ['t', 'c']) →
      relationsSection (['r', 'e', 'l', 'a', 't', 'i', 'o', 'n', 's'] ++
        (b ++ first ++ (u ++ last ++ rest'))) = some (rs, rest') := by
    intro rest' hbegins hcs
    have hskip : layout (b ++ first ++ (u ++ last ++ rest')) = u ++ last ++ rest' :=
      (hbegins.append (u ++ last)).layout_append hs₂' hb hfirst
    have hstop : withLayout relationDefinition rest' = none := by
      have hspaces : spaces rest' = rest' := by
        apply spaces_eq_self
        intro c hc
        rcases List.mem_pair.mp (hcs c hc) with rfl | rfl <;> decide
      have hdefine : expect ['d', 'e', 'f', 'i', 'n', 'e'] rest' = none := by
        apply expect_eq_none
        intro c hc
        rcases List.mem_pair.mp (hcs c hc) with rfl | rfl <;> decide
      rw [withLayout, relationDefinition, hspaces, hdefine]
      rfl
    have hrows := hagain rest' hbegins (fun c hc => List.mem_cons_of_mem 'd' (hcs c hc)) hstop
    rw [relationsSection, expect_append, Option.bind_eq_bind, Option.bind_some, hskip, hrows]
    rfl
  obtain ⟨hlast', hmoved⟩ := hfirst.append hlast
  refine ⟨b, u, first ++ last, ?_, hb, hu, hlast', hlayout, ?_⟩
  · rw [hs₁, hmoved]
    simp only [List.append_assoc]
  · intro rest' hbegins hcs
    have hsection := hread rest' hbegins hcs
    rw [hmoved] at hsection
    simpa only [List.append_assoc] using hsection

/-- A type takes one of its texts and the layout behind it, and takes them again where the text is
cut off in front of a type, a condition or the end. -/
theorem typeDefinition_split {s rest : List Char} {t : TypeDefinition}
    (h : typeDefinition s = some (t, rest)) :
    ∃ x b comment, s = x ++ b ++ comment ++ rest ∧ ReadType t x ∧ Layout b ∧
      LastComment comment rest ∧ layout rest = rest ∧
      StaysRead ['t', 'c'] typeDefinition t (x ++ b ++ comment) rest := by
  simp only [typeDefinition, Option.bind_eq_bind, Option.bind_eq_some_iff] at h
  obtain ⟨s₁, h₁, s₂, h₂, ⟨n, s₃⟩, h₃, h⟩ := h
  obtain rfl := expect_split h₁
  obtain ⟨b₁, hb₁, rfl⟩ := spaces₁_split h₂
  obtain ⟨rfl, hn, hhead⟩ := identifier_split h₃
  cases hrelations : relationsSection (layout s₃) with
  | none =>
    simp only [optionally, hrelations] at h
    obtain ⟨rfl, rfl⟩ : ⟨n, []⟩ = t ∧ layout s₃ = rest := by simpa using h
    obtain ⟨b, comment, hs₃, hb, hcomment, hlayout, hstays⟩ :=
      exists_taken_again (P := fun r => ∀ c ∈ r.head?, c ∈ ['t', 'c']) fun v hv hnext =>
        typeDefinition_bare hb₁ hn (BeginsAs.head hv hhead) hnext
    exact ⟨_, b, comment, by simpa only [List.append_assoc] using hs₃, .bare hb₁ hn, hb, hcomment,
      hlayout, hstays⟩
  | some r =>
    obtain ⟨rs, s₄⟩ := r
    simp only [optionally, hrelations] at h
    obtain ⟨rfl, rfl⟩ : ⟨n, rs⟩ = t ∧ s₄ = rest := by simpa using h
    obtain ⟨b₂, comment, hs₃, hb₂, hcomment⟩ := layout_split s₃
    obtain ⟨b₃, u, last, hs₄, hb₃, hu, hlast, hlayout, hstays⟩ := relationsSection_split hrelations
    -- in front of the word there is no last comment
    obtain rfl := hcomment.eq_nil (by simp [hs₄])
    rw [List.append_nil, hs₄] at hs₃
    have hne : b₂ ≠ [] := by
      rintro rfl
      have hr := hhead 'r' (by rw [hs₃]; rfl)
      exact absurd hr (by decide)
    refine ⟨_, [], last, ?_, .withRelations hb₁ hn hb₂ hne hb₃ hu, .nil, hlast, hlayout, ?_⟩
    · rw [hs₃]
      simp only [List.append_assoc, List.nil_append]
    · intro rest' hbegins hcs
      have hsection := hstays rest' hbegins hcs
      simp only [List.append_assoc] at hsection
      simpa only [List.append_assoc, List.nil_append] using
        typeDefinition_section hb₁ hn hb₂ hne hsection

/-! ### Items -/

/-- The texts that are read as an item. -/
inductive ReadItem : Item → List Char → Prop
  | type {t : TypeDefinition} {s : List Char} : ReadType t s → ReadItem (.type t) s
  | condition {c : Condition} {s : List Char} : WrittenCondition c s → ReadItem (.condition c) s

theorem WrittenCondition.start {c : Condition} {s : List Char} (h : WrittenCondition c s) :
    ∃ u, s = 'c' :: u := by
  cases h with
  | mk => exact ⟨_, rfl⟩

/-- A condition is read as an item: the reader of types comes first, and gives up at the first
character. -/
theorem WrittenCondition.item_append {c : Condition} {s : List Char} (h : WrittenCondition c s)
    (rest : List Char) : item (s ++ rest) = some (.condition c, rest) := by
  have htype : typeDefinition (s ++ rest) = none := by
    obtain ⟨u, rfl⟩ := h.start
    simp [typeDefinition, expect]
  rw [item, orElse, htype, h.append]
  rfl

theorem takesRow_items : TakesRow ReadItem (withLayout item) ['t', 'c'] where
  start h := by
    cases h with
    | type h =>
      obtain ⟨u, rfl⟩ := h.start
      exact ⟨'t', u, rfl, by decide⟩
    | condition h =>
      obtain ⟨u, rfl⟩ := h.start
      exact ⟨'c', u, rfl, by decide⟩
  split := by
    intro s i rest _ h
    obtain ⟨s₁, h₁, rfl⟩ := withLayout_split h
    simp only [item, orElse, Option.or_eq_some_iff, Option.map_eq_some_iff] at h₁
    rcases h₁ with ⟨⟨t, s'⟩, ht, h₁⟩ | ⟨hnone, ⟨c, s'⟩, hc, h₁⟩
    · obtain ⟨rfl, rfl⟩ := Prod.mk.inj h₁
      obtain ⟨x, b, comment, rfl, hx, hb, hcomment, hlayout, hstays⟩ := typeDefinition_split ht
      rw [hlayout]
      refine ⟨x, b, comment, rfl, .type hx, hb, hcomment, hlayout, ?_⟩
      intro rest' hbegins hcs
      have hread : item (x ++ b ++ comment ++ rest') = some (.type t, rest') := by
        rw [item, orElse, hstays rest' hbegins hcs]
        rfl
      rw [withLayout_eq_some hread, hbegins.layout_eq hlayout]
    · obtain ⟨rfl, rfl⟩ := Prod.mk.inj h₁
      obtain ⟨t, rfl, ht⟩ := conditionDefinition_split hc
      obtain ⟨b, comment, hs', hb, hcomment, hlayout, hstays⟩ :=
        exists_taken_again fun v _ _ => withLayout_eq_some (ht.item_append v)
      exact ⟨t, b, comment, hs', .condition ht, hb, hcomment, hlayout, hstays⟩

/-! ### Models -/

/-- The texts that are read as a model. The last line may end in a comment. -/
inductive ReadModel : Model → List Char → Prop
  | mk {v : String} {items : List Item} {b₁ h b₂ u comment : List Char} :
      Layout b₁ → WrittenHeader v h → Layout b₂ → Row ReadItem items u → LastComment comment [] →
      ReadModel ⟨none, v, items.filterMap Item.type?, items.filterMap Item.condition?⟩
        (b₁ ++ h ++ b₂ ++ u ++ comment)

/-- The header, if there is one, is taken with the layout behind it, and taken again where the text
is cut off behind it. -/
theorem optionalHeader_split {s rest : List Char} {v : Option String} (hs : layout s = s)
    (h : optionally (withLayout modelHeader) s = (v, rest)) :
    ∃ t b comment, s = t ++ b ++ comment ++ rest ∧
      WrittenHeader (v.getD defaultSchemaVersion) t ∧ Layout b ∧ LastComment comment rest ∧
      layout rest = rest ∧
      ∀ rest', BeginsAs rest rest' → (∀ c ∈ rest'.head?, c ≠ 'm') →
        optionally (withLayout modelHeader) (t ++ b ++ comment ++ rest') = (v, rest') := by
  rw [optionally] at h
  cases hheader : withLayout modelHeader s with
  | none =>
    simp only [hheader] at h
    obtain ⟨rfl, rfl⟩ : none = v ∧ s = rest := by simpa using h
    refine ⟨[], [], [], rfl, .absent, .nil, lastComment_nil s, hs, ?_⟩
    intro rest' _ hm
    have hnone : withLayout modelHeader rest' = none := by
      rw [withLayout, modelHeader, expect_eq_none hm]
      rfl
    rw [List.append_nil, List.append_nil, List.nil_append, optionally, hnone]
  | some r =>
    obtain ⟨version, s'⟩ := r
    simp only [hheader] at h
    obtain ⟨rfl, rfl⟩ : some version = v ∧ s' = rest := by simpa using h
    obtain ⟨s₁, h₁, rfl⟩ := withLayout_split hheader
    obtain ⟨b₁, b₂, rfl, hb₁, hb₂, hversion, hends⟩ := modelHeader_split h₁
    obtain ⟨b, comment, hs₁, hb, hcomment, hlayout, hstays⟩ :=
      exists_taken_again (P := fun _ => True) fun v hv _ =>
        withLayout_eq_some (modelHeader_append hb₁ hb₂ hversion (BeginsAs.head hv hends))
    refine ⟨_, b, comment, hs₁, .mk hb₁ hb₂ hversion, hb, hcomment, hlayout, ?_⟩
    intro rest' hbegins _
    rw [optionally, hstays rest' hbegins trivial]

/-- **What a model takes** is a header and definitions with layout behind each. Nothing is left that
could be skipped or read as a definition, and what is taken is read to the same model without what
is left. -/
theorem model_split {s rest : List Char} {m : Model} (h : model s = (m, rest)) :
    ∃ used, s = used ++ rest ∧ ReadModel m used ∧ model used = (m, []) ∧ layout rest = rest ∧
      withLayout item rest = none := by
  obtain ⟨v, s₁, hheader⟩ : ∃ v s₁, optionally (withLayout modelHeader) (layout s) = (v, s₁) :=
    ⟨_, _, rfl⟩
  obtain ⟨items, last, hitems⟩ : ∃ items last, many (withLayout item) s₁ = (items, last) :=
    ⟨_, _, rfl⟩
  obtain ⟨rfl, rfl⟩ : ⟨none, v.getD defaultSchemaVersion, items.filterMap Item.type?,
      items.filterMap Item.condition?⟩ = m ∧ last = rest := by
    simpa [model, hheader, hitems] using h
  obtain ⟨b₁, c₁, hs, hb₁, hc₁⟩ := layout_split s
  obtain ⟨t, b₂, c₂, hlayout, ht, hb₂, hc₂, hs₁, hagain⟩ :=
    optionalHeader_split (layout_layout s) hheader
  obtain ⟨u, c₃, rfl, hu, hc₃, hlast, hnone, hmany⟩ := takesRow_items.many_split hs₁ hitems
  -- the three comments are one, at the end of the text
  obtain ⟨hc₂₃, hmoved₂⟩ := hc₂.append hc₃
  have htail : layout s = t ++ b₂ ++ u ++ (c₂ ++ c₃) ++ last := by rw [hlayout, hmoved₂]
  obtain ⟨hc, hmoved₁⟩ := (htail ▸ hc₁).append hc₂₃
  have htext : ∀ rest', b₁ ++ c₁ ++ (t ++ b₂ ++ c₂ ++ (u ++ c₃ ++ rest')) =
      b₁ ++ t ++ b₂ ++ u ++ (c₁ ++ (c₂ ++ c₃)) ++ rest' := by
    intro rest'
    rw [hmoved₂, hmoved₁]
    simp only [List.append_assoc]
  have hmodel : model (b₁ ++ c₁ ++ (t ++ b₂ ++ c₂ ++ (u ++ c₃ ++ []))) =
      (⟨none, v.getD defaultSchemaVersion, items.filterMap Item.type?,
        items.filterMap Item.condition?⟩, []) := by
    have hend : BeginsAs last [] := beginsAs_nil last
    have hskip : layout (b₁ ++ c₁ ++ (t ++ b₂ ++ c₂ ++ (u ++ c₃ ++ []))) =
        t ++ b₂ ++ c₂ ++ (u ++ c₃ ++ []) := by
      refine BeginsAs.layout_append ?_ (layout_layout s) hb₁ hc₁
      rw [hlayout]
      exact (hend.append _).append _
    have hhead : ∀ c ∈ (u ++ c₃ ++ []).head?, c ∈ ['t', 'c'] :=
      takesRow_items.head_mem hu hc₃ hs₁ (by simp)
    have hversion := hagain (u ++ c₃ ++ []) (hend.append _) (by
      intro c hc
      rcases List.mem_pair.mp (hhead c hc) with rfl | rfl <;> decide)
    have hrows := hmany [] hend (by simp) rfl
    rw [model, hskip, hversion]
    simp only [hrows]
  refine ⟨b₁ ++ t ++ b₂ ++ u ++ (c₁ ++ (c₂ ++ c₃)), ?_, .mk hb₁ ht hb₂ hu ?_, ?_, hlast, hnone⟩
  · rw [← htext, ← hlayout, ← hs]
  · -- where something is left there is no comment
    rcases hc with hc | ⟨-, hc⟩
    · exact Or.inl hc
    · exact Or.inr ⟨rfl, hc⟩
  · rw [htext, List.append_nil] at hmodel
    exact hmodel

end Relata.Language
