import Mathlib.Data.List.TakeWhile
import Relata.Proofs.Language.Expression

/-!
# What the readers of expressions take

Whatever a reader takes off a text is a text of what it has read: nothing is read that the grammar
does not allow. A reader of a run of characters stops where the run ends, so no name runs from what
is taken into what is left.

## Main definitions

* `LastComment` — a comment that only the end of the text ends.
* `Takes` — a reader takes texts of a kind.
* `SkipsOnly` — what is skipped in front of something is of a kind.

## Main results

* `layout_split` — what layout takes.
* `Takes.many_split`, `Takes.separated_split` — what lists with separators take.
* `takes_operand`, …, `takes_expressionWith` — the levels of binding.
* `takes_expression` — **an expression is taken as one of its texts.**
-/

namespace Relata.Language

/-! ### Between lexemes -/

theorem spaces_split (s : List Char) : ∃ b, Blanks b ∧ s = b ++ spaces s := by
  refine ⟨s.takeWhile isSpace, ?_, ?_⟩
  · intro c hc
    exact List.mem_takeWhile_imp hc
  · rw [spaces, List.takeWhile_append_dropWhile]

theorem spaces₁_split {s t : List Char} (h : spaces₁ s = some t) : ∃ b, Gap b ∧ s = b ++ t := by
  cases s with
  | nil => simp [spaces₁] at h
  | cons c s =>
    rw [spaces₁] at h
    split at h
    · next hc =>
      obtain rfl : spaces s = t := by simpa using h
      obtain ⟨b, hb, hs⟩ := spaces_split s
      refine ⟨c :: b, ⟨?_, List.cons_ne_nil c b⟩, ?_⟩
      · intro d hd
        rcases List.mem_cons.mp hd with rfl | hd
        · exact hc
        · exact hb d hd
      · rw [List.cons_append, ← hs]
    · simp at h

/-- A comment that no line end ends. Nothing stands behind it. -/
def LastComment (comment rest : List Char) : Prop :=
  comment = [] ∨
    rest = [] ∧ ∃ body, (∀ c ∈ body, isLineEnd c = false) ∧ comment = '#' :: body

theorem lastComment_nil (rest : List Char) : LastComment [] rest := Or.inl rfl

/-- Where something is left, there is no last comment. -/
theorem LastComment.eq_nil {comment rest : List Char} (h : LastComment comment rest)
    (hne : rest ≠ []) : comment = [] := by
  rcases h with h | ⟨h, -⟩
  · exact h
  · exact absurd h hne

/-- Behind the sign of a comment its line ends, or the text does. -/
theorem comment_split (s : List Char) : ∃ body, (∀ c ∈ body, isLineEnd c = false) ∧
    (s = body ∨ ∃ e t, isLineEnd e = true ∧ s = body ++ e :: t) := by
  have hsplit := List.takeWhile_append_dropWhile (p := (!isLineEnd ·)) (l := s)
  refine ⟨s.takeWhile (!isLineEnd ·), ?_, ?_⟩
  · intro c hc
    simpa using List.mem_takeWhile_imp hc
  · cases hrest : s.dropWhile (!isLineEnd ·) with
    | nil =>
      rw [hrest, List.append_nil] at hsplit
      exact Or.inl hsplit.symm
    | cons e t =>
      have he := List.head?_dropWhile_not (!isLineEnd ·) s
      rw [hrest] at he hsplit
      exact Or.inr ⟨e, t, by simpa using he, hsplit.symm⟩

/-- What layout takes is layout, but for a comment that the text ends in. -/
theorem layout_split (s : List Char) :
    ∃ b comment, s = b ++ comment ++ layout s ∧ Layout b ∧ LastComment comment (layout s) := by
  -- by length, as a comment is skipped in one step
  induction hn : s.length using Nat.strongRecOn generalizing s with
  | ind n ih =>
    cases s with
    | nil => exact ⟨[], [], rfl, .nil, lastComment_nil _⟩
    | cons c s =>
      rw [List.length_cons] at hn
      by_cases hc : isSpacing c = true
      · have hlayout : layout (c :: s) = layout s := (Layout.spacing hc .nil).layout_append s
        obtain ⟨b, comment, hs, hb, hcomment⟩ := ih s.length (by omega) s rfl
        rw [hlayout]
        refine ⟨c :: b, comment, ?_, .spacing hc hb, hcomment⟩
        rw [List.cons_append, List.cons_append, ← hs]
      by_cases hhash : c = '#'
      · subst hhash
        obtain ⟨body, hbody, rfl | ⟨e, t, he, rfl⟩⟩ := comment_split s
        · rw [layout_comment_end hbody]
          exact ⟨[], '#' :: s, by simp, .nil, Or.inr ⟨rfl, s, hbody, rfl⟩⟩
        · have htext : '#' :: (body ++ e :: t) = '#' :: (body ++ [e]) ++ t := by simp
          have hlayout : layout ('#' :: (body ++ e :: t)) = layout t := by
            rw [htext]
            exact (Layout.comment hbody he .nil).layout_append t
          have hlen : t.length < n := by
            rw [List.length_append, List.length_cons] at hn
            omega
          obtain ⟨b, comment, ht, hb, hcomment⟩ := ih t.length hlen t rfl
          rw [hlayout]
          refine ⟨'#' :: (body ++ e :: b), comment, ?_, .comment hbody he hb, hcomment⟩
          rw [List.cons_append, List.cons_append, List.append_assoc, List.append_assoc,
            List.cons_append, ← List.append_assoc b, ← ht]
      · have hlayout : layout (c :: s) = c :: s :=
          layout_eq_self (by simpa [hhash] using hc)
        rw [hlayout]
        exact ⟨[], [], rfl, .nil, lastComment_nil _⟩

/-! ### Lexemes -/

theorem expect_split {word s t : List Char} (h : expect word s = some t) : s = word ++ t := by
  induction word generalizing s with
  | nil =>
    rw [expect, Option.some.injEq] at h
    exact h
  | cons w word ih =>
    cases s with
    | nil => simp [expect] at h
    | cons c s =>
      rw [expect] at h
      split at h
      · next hc => rw [hc, ih h, List.cons_append]
      · simp at h

/-- What a run takes, and that it takes all there is. -/
theorem chars₁_split {p : Char → Bool} {s cs rest : List Char} (h : chars₁ p s = some (cs, rest)) :
    s = cs ++ rest ∧ cs ≠ [] ∧ (∀ c ∈ cs, p c = true) ∧ ∀ c ∈ rest.head?, p c = false := by
  unfold chars₁ at h
  split at h
  · simp at h
  · next c ds htake =>
    obtain ⟨rfl, rfl⟩ : c :: ds = cs ∧ s.dropWhile p = rest := by simpa using h
    refine ⟨?_, List.cons_ne_nil c ds, ?_, ?_⟩
    · rw [← htake, List.takeWhile_append_dropWhile]
    · intro d hd
      rw [← htake] at hd
      exact List.mem_takeWhile_imp hd
    · intro d hd
      have := List.head?_dropWhile_not p s
      rw [Option.mem_def.mp hd] at this
      simpa using this

/-- A name is taken, and no character of a name is left behind it. -/
theorem identifier_split {s rest : List Char} {n : String} (h : identifier s = some (n, rest)) :
    s = n.toList ++ rest ∧ IsName n ∧ ∀ c ∈ rest.head?, isNameChar c = false := by
  simp only [identifier, Option.bind_eq_bind, Option.bind_eq_some_iff] at h
  obtain ⟨⟨cs, r⟩, hcs, hword⟩ := h
  split at hword
  · simp at hword
  · next hk =>
    obtain ⟨rfl, rfl⟩ : String.ofList cs = n ∧ r = rest := by simpa using hword
    obtain ⟨hs, hne, hchars, hhead⟩ := chars₁_split hcs
    rw [String.toList_ofList]
    refine ⟨hs, ⟨?_, ?_, ?_⟩, hhead⟩
    · rwa [String.toList_ofList]
    · rwa [String.toList_ofList]
    · simpa using hk

/-! ### Names do not run on -/

theorem Apart.left {t u v : List Char} (h : Apart t (u ++ v)) : Apart t u := by
  intro c hc hname d hd
  refine h c hc hname d ?_
  rw [List.head?_append, Option.mem_def.mp hd]
  rfl

/-- What counts is the end of what stands in front. -/
theorem Apart.behind {u v : List Char} (h : Apart u v) (hne : u ≠ []) (t : List Char) :
    Apart (t ++ u) v := by
  intro c hc
  refine h c ?_
  rwa [List.getLast?_append, List.getLast?_eq_some_getLast hne, Option.some_or,
    ← List.getLast?_eq_some_getLast hne] at hc

/-! ### Lists -/

section Lists

variable {α : Type} {W : α → List Char → Prop} {F : List Char → Prop} {p : Parser α}

/-- A reader that takes texts of a kind. Where `F` holds of what is left, no name runs into it. -/
structure Takes (W : α → List Char → Prop) (F : List Char → Prop) (p : Parser α) : Prop where
  split : ∀ {s a rest}, p s = some (a, rest) →
    ∃ t, s = t ++ rest ∧ W a t ∧ (F rest → Apart t rest)
  ne_nil : ∀ {a t}, W a t → t ≠ []

variable {sep : List Char → Prop} {readSep : List Char → Option (List Char)}

/-- What a list with separators takes behind its first element. -/
theorem Takes.many_split (hp : Takes W F p)
    (hsep : ∀ {s t}, readSep s = some t → t ≠ [] → ∃ b, sep b ∧ s = b ++ t)
    (hfollows : ∀ {b} rest, sep b → F (b ++ rest)) {s rest : List Char} {as : List α}
    (h : many (fun s => readSep s >>= p) s = (as, rest)) :
    ∃ u, s = u ++ rest ∧ Behind sep W as u ∧ (u = [] ∨ F (u ++ rest)) ∧
      (u ≠ [] → F rest → Apart u rest) := by
  have hnil : ∀ s : List Char, ∃ u, s = u ++ s ∧ Behind sep W [] u ∧ (u = [] ∨ F (u ++ s)) ∧
      (u ≠ [] → F s → Apart u s) := fun s =>
    ⟨[], rfl, .nil, Or.inl rfl, fun hne => absurd rfl hne⟩
  fun_induction many (fun s => readSep s >>= p) s generalizing as with
  | case1 s hnone =>
    obtain ⟨rfl, rfl⟩ : [] = as ∧ s = rest := by simpa using h
    exact hnil s
  | case2 s a s' hstep hlt bs last hmany ih =>
    obtain ⟨rfl, rfl⟩ : a :: bs = as ∧ last = rest := by simpa using h
    rw [Option.bind_eq_bind, Option.bind_eq_some_iff] at hstep
    obtain ⟨s₁, hs₁, ha⟩ := hstep
    obtain ⟨t, rfl, ht, hapart⟩ := hp.split ha
    obtain ⟨b, hb, rfl⟩ := hsep hs₁ (List.append_ne_nil_of_left_ne_nil (hp.ne_nil ht) s')
    obtain ⟨u, rfl, hu, hstart, hend⟩ := ih hmany
    -- what follows the element is a separator or what follows the list
    have htu : Apart t u := by
      rcases hstart with rfl | hf
      · exact apart_nil_right t
      · exact (hapart hf).left
    refine ⟨b ++ t ++ u, by simp, .cons hb ht htu hu, Or.inr ?_, fun _ hf => ?_⟩
    · simp only [List.append_assoc]
      exact hfollows _ hb
    · by_cases hne : u = []
      · subst hne
        rw [List.append_nil]
        exact (hapart hf).behind (hp.ne_nil ht) b
      · exact (hend hne hf).behind hne (b ++ t)
  | case3 s a s' hstep hlt =>
    obtain ⟨rfl, rfl⟩ : [] = as ∧ s = rest := by simpa using h
    exact hnil s

/-- What a list with separators takes. -/
theorem Takes.separated_split (hp : Takes W F p)
    (hsep : ∀ {s t}, readSep s = some t → t ≠ [] → ∃ b, sep b ∧ s = b ++ t)
    (hfollows : ∀ {b} rest, sep b → F (b ++ rest)) {s rest : List Char} {as : List α}
    (h : separated readSep p s = some (as, rest)) :
    ∃ a as' t u, as = a :: as' ∧ s = t ++ u ++ rest ∧ W a t ∧ Apart t u ∧
      Behind sep W as' u ∧ (F rest → Apart (t ++ u) rest) := by
  simp only [separated, Option.bind_eq_bind, Option.bind_eq_some_iff] at h
  obtain ⟨⟨a, s₁⟩, ha, h⟩ := h
  obtain ⟨as', last, hmany⟩ : ∃ as' last, many (fun t => readSep t >>= p) s₁ = (as', last) :=
    ⟨_, _, rfl⟩
  simp only [Option.bind_eq_bind] at hmany
  rw [hmany] at h
  obtain ⟨rfl, rfl⟩ : a :: as' = as ∧ last = rest := by simpa using h
  obtain ⟨t, rfl, ht, hapart⟩ := hp.split ha
  obtain ⟨u, rfl, hu, hstart, hend⟩ := hp.many_split hsep hfollows hmany
  refine ⟨a, as', t, u, rfl, by simp, ht, ?_, hu, fun hf => ?_⟩
  · rcases hstart with rfl | hf
    · exact apart_nil_right t
    · exact (hapart hf).left
  · by_cases hne : u = []
    · subst hne
      rw [List.append_nil]
      exact hapart hf
    · exact (hend hne hf).behind hne t

end Lists

/-! ### Subjects -/

/-- Nothing to be asked of what is left. -/
def Unasked (_ : List Char) : Prop := True

/-- What a kind takes behind the name of a type. -/
theorem subjectKind_split {s rest : List Char} {kind : SubjectKind}
    (h : subjectKind s = (kind, rest)) (hs : ∀ c ∈ s.head?, isNameChar c = false)
    (t : List Char) :
    s = kind.suffix.toList ++ rest ∧ KindIsWritable kind ∧
      Apart (t ++ kind.suffix.toList) rest := by
  have hobject : s = SubjectKind.object.suffix.toList ++ s ∧ KindIsWritable .object ∧
      Apart (t ++ SubjectKind.object.suffix.toList) s :=
    ⟨rfl, trivial, apart_of_head hs⟩
  unfold subjectKind at h
  split at h
  · -- a wildcard, which ends in no character of a name
    obtain ⟨rfl, rfl⟩ := Prod.mk.inj h
    refine ⟨by simp [SubjectKind.suffix], trivial, ?_⟩
    intro c hc hname
    obtain rfl : '*' = c := by
      simpa [SubjectKind.suffix, List.getLast?_append] using hc
    exact absurd hname (by decide)
  · split at h
    · next rest' relation last hrelation =>
      obtain ⟨rfl, rfl⟩ := Prod.mk.inj h
      obtain ⟨rfl, hn, hhead⟩ := identifier_split hrelation
      exact ⟨by simp [SubjectKind.suffix], hn, apart_of_head hhead⟩
    · obtain ⟨rfl, rfl⟩ := Prod.mk.inj h
      exact hobject
  · obtain ⟨rfl, rfl⟩ := Prod.mk.inj h
    exact hobject

/-- What a condition takes behind a subject. -/
theorem withCondition_split {s rest : List Char} {c : String}
    (h : withCondition s = some (c, rest)) :
    ∃ b₁ b₂, s = b₁ ++ ['w', 'i', 't', 'h'] ++ b₂ ++ c.toList ++ rest ∧ Gap b₁ ∧ Gap b₂ ∧
      IsName c ∧ ∀ d ∈ rest.head?, isNameChar d = false := by
  simp only [withCondition, Option.bind_eq_bind, Option.bind_eq_some_iff] at h
  obtain ⟨s₁, h₁, s₂, h₂, s₃, h₃, h₄⟩ := h
  obtain ⟨b₁, hb₁, rfl⟩ := spaces₁_split h₁
  obtain rfl := expect_split h₂
  obtain ⟨b₂, hb₂, rfl⟩ := spaces₁_split h₃
  obtain ⟨rfl, hc, hhead⟩ := identifier_split h₄
  exact ⟨b₁, b₂, by simp, hb₁, hb₂, hc, hhead⟩

theorem takes_subject : Takes WrittenSubject Unasked subjectReference where
  split := by
    intro s subject rest h
    simp only [subjectReference, Option.bind_eq_bind, Option.bind_eq_some_iff] at h
    obtain ⟨⟨n, s₁⟩, hn, h⟩ := h
    obtain ⟨rfl, hname, hhead⟩ := identifier_split hn
    obtain ⟨kind, s₂, hkind⟩ : ∃ kind s₂, subjectKind s₁ = (kind, s₂) := ⟨_, _, rfl⟩
    obtain ⟨rfl, hwritable, hapart⟩ := subjectKind_split hkind hhead n.toList
    simp only [hkind, optionally] at h
    cases hc : withCondition s₂ with
    | none =>
      rw [hc] at h
      obtain ⟨rfl, rfl⟩ : ⟨n, kind, none⟩ = subject ∧ s₂ = rest := by simpa using h
      exact ⟨_, by simp, .plain hname hwritable, fun _ => hapart⟩
    | some r =>
      obtain ⟨c, s₃⟩ := r
      rw [hc] at h
      obtain ⟨rfl, rfl⟩ : ⟨n, kind, some c⟩ = subject ∧ s₃ = rest := by simpa using h
      obtain ⟨b₁, b₂, rfl, hb₁, hb₂, hcondition, hrest⟩ := withCondition_split hc
      exact ⟨_, by simp, .conditional hname hwritable hb₁ hb₂ hcondition,
        fun _ => apart_of_head hrest⟩
  ne_nil h := h.solid.ne_nil

/-! ### Operands -/

/-- Blanks and a closing bracket are taken. -/
theorem expect_spaces_split {word s t : List Char} (h : expect word (spaces s) = some t) :
    ∃ b, Blanks b ∧ s = b ++ word ++ t := by
  obtain ⟨b, hb, hs⟩ := spaces_split s
  refine ⟨b, hb, ?_⟩
  rw [hs, expect_split h, List.append_assoc]

section SkipsOnly

variable {P : List Char → Prop} {skip : List Char → List Char}

/-- In front of something, `skip` takes nothing but texts of a kind. -/
def SkipsOnly (P : List Char → Prop) (skip : List Char → List Char) : Prop :=
  ∀ ⦃s⦄, skip s ≠ [] → ∃ b, P b ∧ s = b ++ skip s

theorem skipsOnly_spaces : SkipsOnly Blanks spaces := fun s _ => spaces_split s

/-- What is skipped and a word behind it are taken. -/
theorem SkipsOnly.expect_split (h : SkipsOnly P skip) {w : Char} {word s t : List Char}
    (hword : expect (w :: word) (skip s) = some t) : ∃ b, P b ∧ s = b ++ w :: word ++ t := by
  have hs := Language.expect_split hword
  obtain ⟨b, hb, hskip⟩ := h (s := s) (by simp [hs])
  exact ⟨b, hb, by rw [hskip, hs, List.append_assoc]⟩

theorem SkipsOnly.commaBetween_split (h : SkipsOnly P skip) {s t : List Char}
    (hcomma : commaBetween skip s = some t) (hne : t ≠ []) :
    ∃ b, CommaWithin P b ∧ s = b ++ t := by
  simp only [commaBetween, Option.bind_eq_bind, Option.bind_eq_some_iff] at hcomma
  obtain ⟨s₁, h₁, hcomma⟩ := hcomma
  obtain rfl : skip s₁ = t := by simpa using hcomma
  obtain ⟨b₁, hb₁, rfl⟩ := h.expect_split h₁
  obtain ⟨b₂, hb₂, hs₁⟩ := h hne
  refine ⟨b₁ ++ ',' :: b₂, ⟨b₁, b₂, hb₁, hb₂, rfl⟩, ?_⟩
  simp only [List.append_assoc, List.cons_append, List.nil_append]
  rw [← hs₁]

end SkipsOnly

/-- No name runs on behind a bracket. -/
theorem apart_of_bracket {c : Char} (hc : isNameChar c = false) (t rest : List Char) :
    Apart (t ++ [c]) rest := by
  intro d hd hname
  obtain rfl : c = d := by simpa using hd
  rw [hc] at hname
  contradiction

theorem typeRestriction_split {s rest : List Char} {e : Rule}
    (h : typeRestriction s = some (e, rest)) :
    ∃ t, s = t ++ rest ∧ Written .operand e t ∧ Apart t rest := by
  simp only [typeRestriction, Option.bind_eq_bind, Option.bind_eq_some_iff] at h
  obtain ⟨s₁, h₁, ⟨subjects, s₂⟩, h₂, s₃, h₃, h⟩ := h
  obtain ⟨rfl, rfl⟩ : Rule.direct subjects = e ∧ s₃ = rest := by simpa using h
  obtain rfl := expect_split h₁
  obtain ⟨b₁, hb₁, hs₁⟩ := spaces_split s₁
  obtain ⟨b₂, hb₂, rfl⟩ := expect_spaces_split h₃
  obtain ⟨a, as, t, u, rfl, hs, ht, htu, hu, -⟩ :=
    takes_subject.separated_split skipsOnly_spaces.commaBetween_split (fun _ _ => trivial) h₂
  refine ⟨['['] ++ b₁ ++ t ++ u ++ b₂ ++ [']'], ?_, .direct hb₁ ht htu hu hb₂,
    apart_of_bracket (by decide) _ _⟩
  rw [hs₁, hs]
  simp

theorem tupleToUserset_split {s rest : List Char} {e : Rule}
    (h : tupleToUserset s = some (e, rest)) :
    ∃ t, s = t ++ rest ∧ Written .operand e t ∧ Apart t rest := by
  simp only [tupleToUserset, Option.bind_eq_bind, Option.bind_eq_some_iff] at h
  obtain ⟨⟨n, s₁⟩, hn, s₂, h₂, s₃, h₃, s₄, h₄, ⟨tupleset, s₅⟩, h₅, h⟩ := h
  obtain ⟨rfl, rfl⟩ : Rule.fromTupleset tupleset n = e ∧ s₅ = rest := by simpa using h
  obtain ⟨rfl, hname, -⟩ := identifier_split hn
  obtain ⟨b₁, hb₁, rfl⟩ := spaces₁_split h₂
  obtain rfl := expect_split h₃
  obtain ⟨b₂, hb₂, rfl⟩ := spaces₁_split h₄
  obtain ⟨rfl, htupleset, hhead⟩ := identifier_split h₅
  exact ⟨_, by simp, .fromTupleset hname hb₁ hb₂ htupleset, apart_of_head hhead⟩

theorem computedUserset_split {s rest : List Char} {e : Rule}
    (h : computedUserset s = some (e, rest)) :
    ∃ t, s = t ++ rest ∧ Written .operand e t ∧ Apart t rest := by
  simp only [computedUserset, Option.bind_eq_bind, Option.bind_eq_some_iff] at h
  obtain ⟨⟨n, s₁⟩, hn, h⟩ := h
  obtain ⟨rfl, rfl⟩ : Rule.computed n = e ∧ s₁ = rest := by simpa using h
  obtain ⟨rfl, hname, hhead⟩ := identifier_split hn
  exact ⟨_, rfl, .computed hname, apart_of_head hhead⟩

section Levels

variable {inner : Parser Rule}

theorem parenthesized_split (hinner : Takes (Written .whole) Unasked inner) {s rest : List Char}
    {e : Rule} (h : parenthesized inner s = some (e, rest)) :
    ∃ t, s = t ++ rest ∧ Written .operand e t ∧ Apart t rest := by
  simp only [parenthesized, Option.bind_eq_bind, Option.bind_eq_some_iff] at h
  obtain ⟨s₁, h₁, ⟨e', s₂⟩, h₂, s₃, h₃, h⟩ := h
  obtain ⟨rfl, rfl⟩ : e' = e ∧ s₃ = rest := by simpa using h
  obtain rfl := expect_split h₁
  obtain ⟨b₁, hb₁, hs₁⟩ := spaces_split s₁
  obtain ⟨b₂, hb₂, rfl⟩ := expect_spaces_split h₃
  obtain ⟨t, hs, ht, -⟩ := hinner.split h₂
  refine ⟨['('] ++ b₁ ++ t ++ b₂ ++ [')'], ?_, .parenthesized hb₁ ht hb₂,
    apart_of_bracket (by decide) _ _⟩
  rw [hs₁, hs]
  simp

/-- An operand is what the first of the four readers that succeeds takes. -/
theorem takes_operand (hinner : Takes (Written .whole) Unasked inner) :
    Takes (Written .operand) Unasked (operand inner) where
  split := by
    intro s e rest h
    have hsplit : ∃ t, s = t ++ rest ∧ Written .operand e t ∧ Apart t rest := by
      simp only [operand, orElse, Option.or_eq_some_iff] at h
      rcases h with h | ⟨-, h | ⟨-, h | ⟨-, h⟩⟩⟩
      · exact typeRestriction_split h
      · exact parenthesized_split hinner h
      · exact tupleToUserset_split h
      · exact computedUserset_split h
    obtain ⟨t, hs, ht, hapart⟩ := hsplit
    exact ⟨t, hs, ht, fun _ => hapart⟩
  ne_nil h := h.solid.ne_nil

/-! ### Levels of binding -/

theorem operator_split {word s t : List Char} (h : operator word s = some t) :
    ∃ b, OperatorText word b ∧ s = b ++ t := by
  simp only [operator, Option.bind_eq_bind, Option.bind_eq_some_iff] at h
  obtain ⟨s₁, h₁, h₂⟩ := h
  obtain ⟨b₁, hb₁, rfl⟩ := expect_spaces_split h₁
  obtain ⟨b₂, hb₂, rfl⟩ := spaces₁_split h₂
  exact ⟨b₁ ++ word ++ b₂, ⟨b₁, b₂, hb₁, hb₂, rfl⟩, by simp⟩

/-- A level takes a single element, or elements with its operator between them. -/
theorem takes_level {word : List Char} {join : List Rule → Rule} {W W' : Rule → List Char → Prop}
    {p : Parser Rule} (hp : Takes W Unasked p) (hsingle : ∀ {e t}, W e t → W' e t)
    (hjoined : ∀ {e e' es t u}, W e t → Apart t u →
      Behind (OperatorText word) W (e' :: es) u → W' (join (e :: e' :: es)) (t ++ u))
    (hne : ∀ {e t}, W' e t → t ≠ []) : Takes W' Unasked (level word join p) where
  split := by
    intro s e rest h
    simp only [level, Option.bind_eq_bind, Option.bind_eq_some_iff] at h
    obtain ⟨⟨first, s₁⟩, hfirst, h⟩ := h
    obtain ⟨t, rfl, ht, hapart⟩ := hp.split hfirst
    obtain ⟨es, s₂, hmany⟩ : ∃ es s₂, many (behind word p) s₁ = (es, s₂) := ⟨_, _, rfl⟩
    rw [hmany] at h
    rw [behind_eq_bind] at hmany
    obtain ⟨u, rfl, hu, -, hend⟩ :=
      hp.many_split (fun h _ => operator_split h) (fun _ _ => trivial) hmany
    -- without an operator behind it, the first element stands alone
    cases hu with
    | nil =>
      obtain ⟨rfl, rfl⟩ : first = e ∧ s₂ = rest := by simpa using h
      exact ⟨t, by simp, hsingle ht, hapart⟩
    | @cons e' es b t' u hb ht' htu hu =>
      obtain ⟨rfl, rfl⟩ : join (first :: e' :: es) = e ∧ s₂ = rest := by simpa using h
      have hne' : b ++ t' ++ u ≠ [] := by simp [hp.ne_nil ht']
      refine ⟨t ++ (b ++ t' ++ u), by simp,
        hjoined ht (hapart trivial).left (.cons hb ht' htu hu), fun hf => ?_⟩
      exact (hend hne' hf).behind hne' t
  ne_nil := hne

theorem takes_intersectionLevel (hinner : Takes (Written .whole) Unasked inner) :
    Takes (Written .conjunction) Unasked (intersectionLevel inner) :=
  takes_level (takes_operand hinner) .operand .intersection fun h => h.solid.ne_nil

theorem takes_unionLevel (hinner : Takes (Written .whole) Unasked inner) :
    Takes (Written .disjunction) Unasked (unionLevel inner) :=
  takes_level (takes_intersectionLevel hinner) .conjunction .union fun h => h.solid.ne_nil

theorem butNot_split (hinner : Takes (Written .whole) Unasked inner) {s rest : List Char}
    {e : Rule} (h : butNot inner s = some (e, rest)) :
    ∃ b₁ b₂ b₃ t, s = b₁ ++ ['b', 'u', 't'] ++ b₂ ++ ['n', 'o', 't'] ++ b₃ ++ t ++ rest ∧
      Gap b₁ ∧ Gap b₂ ∧ Gap b₃ ∧ Written .operand e t ∧ Apart t rest := by
  simp only [butNot, Option.bind_eq_bind, Option.bind_eq_some_iff] at h
  obtain ⟨s₁, h₁, s₂, h₂, s₃, h₃, s₄, h₄, s₅, h₅, h₆⟩ := h
  obtain ⟨b₁, hb₁, rfl⟩ := spaces₁_split h₁
  obtain rfl := expect_split h₂
  obtain ⟨b₂, hb₂, rfl⟩ := spaces₁_split h₃
  obtain rfl := expect_split h₄
  obtain ⟨b₃, hb₃, rfl⟩ := spaces₁_split h₅
  obtain ⟨t, rfl, ht, hapart⟩ := (takes_operand hinner).split h₆
  exact ⟨b₁, b₂, b₃, t, by simp, hb₁, hb₂, hb₃, ht, hapart trivial⟩

theorem takes_expressionWith (hinner : Takes (Written .whole) Unasked inner) :
    Takes (Written .whole) Unasked (expressionWith inner) where
  split := by
    intro s e rest h
    simp only [expressionWith, Option.bind_eq_bind, Option.bind_eq_some_iff] at h
    obtain ⟨⟨base, s₁⟩, hbase, h⟩ := h
    obtain ⟨t, rfl, ht, hapart⟩ := (takes_unionLevel hinner).split hbase
    rw [optionally] at h
    cases hbut : butNot inner s₁ with
    | none =>
      rw [hbut] at h
      obtain ⟨rfl, rfl⟩ : base = e ∧ s₁ = rest := by simpa using h
      exact ⟨t, rfl, .disjunction ht, hapart⟩
    | some r =>
      obtain ⟨subtract, s₂⟩ := r
      rw [hbut] at h
      obtain ⟨rfl, rfl⟩ : Rule.difference base subtract = e ∧ s₂ = rest := by simpa using h
      obtain ⟨b₁, b₂, b₃, u, rfl, hb₁, hb₂, hb₃, hu, hend⟩ := butNot_split hinner hbut
      exact ⟨_, by simp, .difference ht hb₁ hb₂ hb₃ hu, fun _ => hend.behind hu.solid.ne_nil _⟩
  ne_nil h := h.solid.ne_nil

end Levels

theorem takes_expressionWithin (depth : Nat) :
    Takes (Written .whole) Unasked (expressionWithin depth) := by
  induction depth with
  | zero =>
    refine ⟨fun h => ?_, fun h => h.solid.ne_nil⟩
    contradiction
  | succ depth ih => exact takes_expressionWith ih

/-- **An expression is taken as one of its texts**, however deep its parentheses nest. -/
theorem takes_expression : Takes (Written .whole) Unasked expression where
  split h := (takes_expressionWithin _).split h
  ne_nil h := h.solid.ne_nil

end Relata.Language
