import Relata.Proofs.Language.Grammar

/-!
# Expressions read back

Every text of an expression is read back as that expression, whatever follows it, as long as what
follows does not continue it. Each level of binding has one statement, in terms of what reads an
expression in parentheses; the length of the text bounds how deep they nest.

## Main definitions

* `Solid` — a text that starts with neither a blank nor a comment.
* `Skips`, `commaBetween` — what passes over texts of a kind, and a comma with such texts around it.
* `ReadsList`, `ReadsWhole` — what lists are read with, and what reads an expression in parentheses.

## Main results

* `ReadsList.many_eq` — a list with separators is read to its end and no further.
* `operand_append`, …, `expressionWith_append` — the levels of binding.
* `expression_append` — **an expression is read back.**
-/

namespace Relata.Language

/-! ### Starts of texts, and what is skipped before them -/

/-- A text that starts with neither a blank nor a comment. -/
def Solid (t : List Char) : Prop := ∃ c s, t = c :: s ∧ isSpacing c = false ∧ c ≠ '#'

theorem Solid.append {t : List Char} (h : Solid t) (u : List Char) : Solid (t ++ u) := by
  obtain ⟨c, s, rfl, hc, hne⟩ := h
  exact ⟨c, s ++ u, rfl, hc, hne⟩

theorem Solid.ne_nil {t : List Char} (h : Solid t) : t ≠ [] := by
  obtain ⟨c, s, rfl, -, -⟩ := h
  exact List.cons_ne_nil c s

theorem Solid.layout_eq {t : List Char} (h : Solid t) : layout t = t := by
  obtain ⟨c, s, rfl, hc, hne⟩ := h
  exact layout_eq_self (by simpa using ⟨hc, hne⟩)

theorem Solid.spaces_eq {t : List Char} (h : Solid t) : spaces t = t := by
  obtain ⟨c, s, rfl, hc, hne⟩ := h
  refine spaces_eq_self ?_
  intro d hd
  simp only [List.head?_cons, Option.mem_some_iff] at hd
  subst hd
  exact Bool.eq_false_iff.mpr fun h => by simp [isSpacing_of_isSpace h] at hc

/-- `skip` passes over the texts of a kind, and over nothing where something solid starts. -/
structure Skips (P : List Char → Prop) (skip : List Char → List Char) : Prop where
  append : ∀ {b}, P b → ∀ s, skip (b ++ s) = skip s
  solid : ∀ {t}, Solid t → skip t = t

/-- What is skipped in front of something solid leaves that. -/
theorem Skips.append_solid {P : List Char → Prop} {skip : List Char → List Char}
    (h : Skips P skip) {b t : List Char} (hb : P b) (ht : Solid t) : skip (b ++ t) = t := by
  rw [h.append hb, h.solid ht]

theorem skips_spaces : Skips Blanks spaces where
  append := spaces_append
  solid := Solid.spaces_eq

theorem skips_layout : Skips Layout layout where
  append := Layout.layout_append
  solid := Solid.layout_eq

/-- A character of a name differs from every character that is none. -/
theorem ne_of_isNameChar {c d : Char} (hc : isNameChar c = true) (hd : isNameChar d = false) :
    c ≠ d := by
  rintro rfl
  simp [hc] at hd

theorem IsName.exists_cons {n : String} (hn : IsName n) :
    ∃ c s, n.toList = c :: s ∧ isNameChar c = true := by
  cases h : n.toList with
  | nil => exact absurd h hn.ne_nil
  | cons c s => exact ⟨c, s, rfl, hn.chars c (by simp [h])⟩

theorem solid_cons {c : Char} (hc : isNameChar c = true) (s : List Char) : Solid (c :: s) := by
  have hsp : isSpacing c = false := by
    simp only [isSpacing, Bool.or_eq_false_iff, decide_eq_false_iff_not]
    exact ⟨⟨⟨ne_of_isNameChar hc (by decide), ne_of_isNameChar hc (by decide)⟩,
      ne_of_isNameChar hc (by decide)⟩, ne_of_isNameChar hc (by decide)⟩
  exact ⟨c, s, rfl, hsp, ne_of_isNameChar hc (by decide)⟩

theorem IsName.solid {n : String} (hn : IsName n) : Solid n.toList := by
  obtain ⟨c, s, h, hc⟩ := hn.exists_cons
  rw [h]
  exact solid_cons hc s

theorem WrittenSubject.solid {s : Subject} {t : List Char} (h : WrittenSubject s t) : Solid t := by
  cases h with
  | plain hn => exact hn.solid.append _
  | conditional hn =>
    simp only [List.append_assoc]
    exact hn.solid.append _

theorem Written.solid {l : Binding} {e : Rule} {t : List Char} (h : Written l e t) : Solid t := by
  have operand : ∀ {e t}, Written .operand e t → Solid t := by
    intro e t h
    cases h with
    | direct => exact ⟨'[', _, rfl, by decide, by decide⟩
    | computed hn => exact hn.solid
    | fromTupleset hn =>
      simp only [List.append_assoc]
      exact hn.solid.append _
    | parenthesized => exact ⟨'(', _, rfl, by decide, by decide⟩
  have conjunction : ∀ {e t}, Written .conjunction e t → Solid t := by
    intro e t h
    cases h with
    | operand h => exact operand h
    | intersection h => exact (operand h).append _
  have disjunction : ∀ {e t}, Written .disjunction e t → Solid t := by
    intro e t h
    cases h with
    | conjunction h => exact conjunction h
    | union h => exact (conjunction h).append _
  cases l with
  | operand => exact operand h
  | conjunction => exact conjunction h
  | disjunction => exact disjunction h
  | whole =>
    cases h with
    | disjunction h => exact disjunction h
    | difference h =>
      simp only [List.append_assoc]
      exact (disjunction h).append _

/-! ### Repetition -/

section Repetition

variable {α : Type} {p : Parser α}

theorem many_eq_nil {s : List Char} (h : p s = none) : many p s = ([], s) := by
  rw [many, h]

theorem many_eq_cons {s rest : List Char} {a : α} (h : p s = some (a, rest))
    (hlt : rest.length < s.length) :
    many p s = (a :: (many p rest).1, (many p rest).2) := by
  rw [many, h]
  simp only [hlt, if_true]

/-- What lists with separators are read with: a reader of separators, and a reader `p` of elements
that are at most `N` long, which reads an element back where `F` holds of what follows. -/
structure ReadsList (sep : List Char → Prop) (W : α → List Char → Prop)
    (readSep : List Char → Option (List Char)) (p : Parser α) (F : List Char → Prop) (N : Nat) :
    Prop where
  sep_append : ∀ {b a t} rest, sep b → W a t →
    b ≠ [] ∧ readSep (b ++ (t ++ rest)) = some (t ++ rest)
  append : ∀ {a t rest}, t.length ≤ N → W a t → Apart t rest → F rest →
    p (t ++ rest) = some (a, rest)
  follows_sep : ∀ {b} rest, sep b → F (b ++ rest)

variable {sep : List Char → Prop} {W : α → List Char → Prop}
  {readSep : List Char → Option (List Char)} {F : List Char → Prop} {N : Nat}

theorem ReadsList.follows (h : ReadsList sep W readSep p F N) {as : List α} {u rest : List Char}
    (hu : Behind sep W as u) (hf : F rest) : F (u ++ rest) := by
  cases hu with
  | nil => exact hf
  | cons hb => simpa only [List.append_assoc] using h.follows_sep _ hb

/-- **A list with separators is read to its end and no further.** -/
theorem ReadsList.many_eq (h : ReadsList sep W readSep p F N) {as : List α} {u rest : List Char}
    (hu : Behind sep W as u) (hN : u.length ≤ N) (ha : Apart u rest) (hf : F rest)
    (hstop : (readSep rest >>= p) = none) :
    many (fun s => readSep s >>= p) (u ++ rest) = (as, rest) := by
  induction hu with
  | nil => exact many_eq_nil hstop
  | @cons a as b t u hb ht htu hu ih =>
    obtain ⟨hne, hb'⟩ := h.sep_append (u ++ rest) hb ht
    simp only [List.length_append] at hN
    -- what follows the element is a separator or what follows the list
    have htr : Apart t (u ++ rest) := htu.append (by rw [List.append_assoc] at ha; exact ha.right)
    have hstep : (readSep (b ++ (t ++ (u ++ rest))) >>= p) = some (a, u ++ rest) := by
      rw [hb']
      exact h.append (by omega) ht htr (h.follows hu hf)
    have hlt : (u ++ rest).length < (b ++ (t ++ (u ++ rest))).length := by
      have := List.length_pos_iff.mpr hne
      simp only [List.length_append]
      omega
    rw [List.append_assoc, List.append_assoc, many_eq_cons hstep hlt, ih (by omega) ha.right]

theorem ReadsList.first_eq (h : ReadsList sep W readSep p F N) {a : α} {as : List α}
    {t u rest : List Char} (ht : W a t) (htu : Apart t u) (hu : Behind sep W as u)
    (hN : t.length ≤ N) (ha : Apart (t ++ u) rest) (hf : F rest) :
    p (t ++ (u ++ rest)) = some (a, u ++ rest) :=
  h.append hN ht (htu.append ha) (h.follows hu hf)

theorem ReadsList.separated_eq (h : ReadsList sep W readSep p F N) {a : α} {as : List α}
    {t u rest : List Char} (ht : W a t) (htu : Apart t u) (hu : Behind sep W as u)
    (hN : (t ++ u).length ≤ N) (ha : Apart (t ++ u) rest) (hf : F rest)
    (hstop : (readSep rest >>= p) = none) :
    separated readSep p (t ++ (u ++ rest)) = some (a :: as, rest) := by
  rw [List.length_append] at hN
  have hmany := h.many_eq hu (by omega) ha.right hf hstop
  rw [separated, h.first_eq ht htu hu (by omega) ha hf, Option.bind_eq_bind, Option.bind_some]
  dsimp only
  rw [hmany]
  rfl

end Repetition

/-! ### Subjects -/

/-- A character that stands right behind a text is no blank, or something else follows. -/
theorem Stops.of_head {cs rest : List Char} (h : Stops cs rest) {c : Char} (hc : c ∈ rest.head?)
    (hsp : isSpace c = false) : c ∉ cs := by
  refine h c ?_
  rwa [spaces_eq_self fun d hd => by rwa [Option.mem_unique hd hc]]

/-- The word behind the blanks is not the expected one. -/
theorem Stops.expect_spaces {cs rest : List Char} (h : Stops cs rest) {w : Char}
    {word : List Char} (hw : w ∈ cs) : expect (w :: word) (spaces rest) = none :=
  expect_eq_none fun c hc hcw => h c hc (hcw ▸ hw)

/-- Nothing that starts with the word behind a gap can be read. -/
theorem Stops.keyword_eq_none {cs rest : List Char} (h : Stops cs rest) {w : Char}
    {word : List Char} (hw : w ∈ cs) {β : Type} (k : List Char → Option β) :
    (do
      let s ← spaces₁ rest
      let s ← expect (w :: word) s
      k s) = none := by
  cases hs : spaces₁ rest with
  | none => rfl
  | some t =>
    rw [spaces₁_eq_some hs]
    simp [h.expect_spaces hw]

theorem subjectKind_append {kind : SubjectKind} {rest : List Char} (hk : KindIsWritable kind)
    (ha : Apart kind.suffix.toList rest) (hs : Stops [':', '#'] rest) :
    subjectKind (kind.suffix.toList ++ rest) = (kind, rest) := by
  cases kind with
  | object =>
    -- nothing is written for an object, so what follows must not look like a kind
    have hhead : ∀ c ∈ rest.head?, c ≠ ':' ∧ c ≠ '#' := by
      intro c hc
      constructor <;> rintro rfl <;> exact hs.of_head hc (by decide) (by decide)
    cases rest with
    | nil => rfl
    | cons c rest =>
      obtain ⟨h₁, h₂⟩ := hhead c rfl
      simp [SubjectKind.suffix, subjectKind, h₁, h₂]
  | userset relation =>
    have hsuffix : (SubjectKind.userset relation).suffix.toList = ['#'] ++ relation.toList := by
      simp [SubjectKind.suffix]
    rw [hsuffix] at ha ⊢
    simp [subjectKind, identifier_append hk (Apart.head (n := relation) hk ha)]
  | wildcard => simp [SubjectKind.suffix, subjectKind]

/-- What follows a subject's type is its kind or what follows its kind. -/
theorem Apart.head_kind {n : String} {kind : SubjectKind} {rest : List Char} (hn : IsName n)
    (ha : Apart (n.toList ++ kind.suffix.toList) rest) :
    ∀ d ∈ (kind.suffix.toList ++ rest).head?, isNameChar d = false := by
  cases kind with
  | object =>
    have hsuffix : SubjectKind.object.suffix.toList = [] := rfl
    rw [hsuffix, List.append_nil] at ha
    rw [hsuffix, List.nil_append]
    exact Apart.head (t := []) hn (by simpa using ha)
  | userset relation =>
    intro d hd
    simp only [SubjectKind.suffix, String.toList_append, List.append_assoc] at hd
    obtain rfl : '#' = d := by simpa using hd
    decide
  | wildcard =>
    intro d hd
    obtain rfl : ':' = d := by simpa [SubjectKind.suffix] using hd
    decide

theorem withCondition_append {c : String} {b₁ b₂ rest : List Char} (hb₁ : Gap b₁) (hb₂ : Gap b₂)
    (hc : IsName c) (hrest : ∀ d ∈ rest.head?, isNameChar d = false) :
    withCondition (b₁ ++ (['w', 'i', 't', 'h'] ++ (b₂ ++ (c.toList ++ rest)))) =
      some (c, rest) := by
  have hword : spaces (['w', 'i', 't', 'h'] ++ (b₂ ++ (c.toList ++ rest))) =
      ['w', 'i', 't', 'h'] ++ (b₂ ++ (c.toList ++ rest)) :=
    spaces_eq_self (by simp [isSpace])
  have hname : spaces (c.toList ++ rest) = c.toList ++ rest := (hc.solid.append rest).spaces_eq
  simp only [withCondition, spaces₁_append hb₁, hword, expect_append, spaces₁_append hb₂, hname,
    Option.bind_eq_bind, Option.bind_some, identifier_append hc hrest]

/-- A subject is read back if neither its kind nor a condition can follow. -/
theorem WrittenSubject.append {s : Subject} {t rest : List Char} (h : WrittenSubject s t)
    (ha : Apart t rest) (hs : Stops [':', '#', 'w'] rest) :
    subjectReference (t ++ rest) = some (s, rest) := by
  cases h with
  | @plain n kind hn hk =>
    have hcondition : withCondition rest = none := hs.keyword_eq_none (by decide) _
    have hkind := subjectKind_append hk ha.right (hs.mono (by decide))
    rw [List.append_assoc]
    simp [subjectReference, identifier_append hn (Apart.head_kind hn ha), hkind, optionally,
      hcondition]
  | @conditional n kind c b₁ b₂ hn hk hb₁ hb₂ hc =>
    have hcondition := withCondition_append hb₁ hb₂ hc (Apart.head hc ha)
    have hstops : Stops [':', '#'] (b₁ ++ (['w', 'i', 't', 'h'] ++ (b₂ ++ (c.toList ++ rest)))) :=
      .append hb₁.1 (stops_cons _ (by decide) (by decide))
    simp only [List.append_assoc] at hstops ⊢
    -- from here on the condition is just what follows the kind
    generalize ['w', 'i', 't', 'h'] ++ (b₂ ++ (c.toList ++ rest)) = tail at *
    have hname : identifier (n.toList ++ (kind.suffix.toList ++ (b₁ ++ tail))) =
        some (n, kind.suffix.toList ++ (b₁ ++ tail)) :=
      identifier_append hn (Apart.head_kind hn (hb₁.apart _ tail))
    simp only [subjectReference, hname, subjectKind_append hk (hb₁.apart _ tail) hstops,
      optionally, hcondition, Option.bind_eq_bind, Option.bind_some, Option.pure_def]

/-! ### Operands -/

section Skips

variable {P : List Char → Prop} {skip : List Char → List Char}

/-- Behind what is skipped a closing bracket can be read. -/
theorem Skips.expect_close (h : Skips P skip) {b : List Char} (hb : P b) {c : Char}
    (hc : isSpacing c = false ∧ c ≠ '#') (rest : List Char) :
    expect [c] (skip (b ++ c :: rest)) = some rest := by
  rw [h.append_solid hb ⟨c, rest, rfl, hc⟩, expect_singleton]

/-- A comma with what is skipped on both sides. In a list of subjects this is `comma`, with blanks,
and in a list of parameters `layoutComma`, with layout. -/
def commaBetween (skip : List Char → List Char) (s : List Char) : Option (List Char) := do
  return skip (← expect [','] (skip s))

theorem Skips.commaBetween_append (h : Skips P skip) {b t : List Char} (hb : CommaWithin P b)
    (ht : Solid t) (rest : List Char) :
    b ≠ [] ∧ commaBetween skip (b ++ (t ++ rest)) = some (t ++ rest) := by
  obtain ⟨b₁, b₂, hb₁, hb₂, rfl⟩ := hb
  refine ⟨by simp, ?_⟩
  rw [commaBetween, List.append_assoc, List.cons_append, h.expect_close hb₁ (by decide)]
  simp [h.append_solid hb₂ (ht.append rest)]

end Skips

theorem CommaWithin.stops {b : List Char} (hb : CommaWithin Blanks b) (rest : List Char) :
    Stops [':', '#', 'w'] (b ++ rest) := by
  obtain ⟨b₁, b₂, hb₁, -, rfl⟩ := hb
  rw [List.append_assoc]
  exact .append hb₁ (stops_cons _ (by decide) (by decide))

theorem readsList_subjects (N : Nat) :
    ReadsList (CommaWithin Blanks) WrittenSubject comma subjectReference
      (Stops [':', '#', 'w']) N where
  sep_append rest hb ht := skips_spaces.commaBetween_append hb ht.solid rest
  append _ ht ha hs := ht.append ha hs
  follows_sep rest hb := hb.stops rest

/-- Subjects in brackets are read back, whatever follows. -/
theorem typeRestriction_append {s : Subject} {ss : List Subject} {b₁ t u b₂ : List Char}
    (hb₁ : Blanks b₁) (ht : WrittenSubject s t) (htu : Apart t u)
    (hu : Behind (CommaWithin Blanks) WrittenSubject ss u) (hb₂ : Blanks b₂) (rest : List Char) :
    typeRestriction (['['] ++ b₁ ++ t ++ u ++ b₂ ++ [']'] ++ rest) =
      some (.direct (s :: ss), rest) := by
  have hstops : Stops [':', '#', 'w', ','] (b₂ ++ ']' :: rest) :=
    .append hb₂ (stops_cons rest (by decide) (by decide))
  have hsubjects : separated comma subjectReference (t ++ (u ++ (b₂ ++ ']' :: rest))) =
      some (s :: ss, b₂ ++ ']' :: rest) :=
    (readsList_subjects (t ++ u).length).separated_eq ht htu hu (Nat.le_refl _)
      (hb₂.apart (by decide) _ rest) (hstops.mono (by decide))
      (by simp [comma, hstops.expect_spaces])
  have hblanks := (ht.solid.append (u ++ (b₂ ++ ']' :: rest))).spaces_eq
  have hclose : expect [']'] (spaces (b₂ ++ ']' :: rest)) = some rest :=
    skips_spaces.expect_close hb₂ (by decide) rest
  simp only [List.append_assoc, List.singleton_append]
  simp only [typeRestriction, List.cons_append, expect_singleton, spaces_append hb₁, hblanks,
    hsubjects, hclose, Option.bind_eq_bind, Option.bind_some, Option.pure_def]

theorem tupleToUserset_append {n tupleset : String} {b₁ b₂ rest : List Char} (hn : IsName n)
    (hb₁ : Gap b₁) (hb₂ : Gap b₂) (ht : IsName tupleset)
    (hrest : ∀ d ∈ rest.head?, isNameChar d = false) :
    tupleToUserset (n.toList ++ b₁ ++ ['f', 'r', 'o', 'm'] ++ b₂ ++ tupleset.toList ++ rest) =
      some (.fromTupleset tupleset n, rest) := by
  have hname := fun s => identifier_append hn (Apart.head (t := []) hn (hb₁.apart _ s))
  have hword : spaces (['f', 'r', 'o', 'm'] ++ (b₂ ++ (tupleset.toList ++ rest))) =
      ['f', 'r', 'o', 'm'] ++ (b₂ ++ (tupleset.toList ++ rest)) :=
    spaces_eq_self (by simp [isSpace])
  have hblanks := (ht.solid.append rest).spaces_eq
  simp only [List.append_assoc]
  simp only [tupleToUserset, hname, spaces₁_append hb₁, hword, expect_append, spaces₁_append hb₂,
    hblanks, identifier_append ht hrest, Option.bind_eq_bind, Option.bind_some, Option.pure_def]

/-- What `p` reads back: every text of an expression that is less than `n` long. -/
def ReadsWhole (p : Parser Rule) (n : Nat) : Prop :=
  ∀ {e : Rule} {t rest : List Char}, t.length < n → Written .whole e t → Apart t rest →
    Stops ['a', 'o', 'b', 'f'] rest → p (t ++ rest) = some (e, rest)

theorem parenthesized_append {inner : Parser Rule} {n : Nat} (hinner : ReadsWhole inner n)
    {e : Rule} {b₁ t b₂ : List Char} (hb₁ : Blanks b₁) (ht : Written .whole e t) (hb₂ : Blanks b₂)
    (hlen : t.length < n) (rest : List Char) :
    parenthesized inner (['('] ++ b₁ ++ t ++ b₂ ++ [')'] ++ rest) = some (e, rest) := by
  have hblanks := (ht.solid.append (b₂ ++ ')' :: rest)).spaces_eq
  have hread : inner (t ++ (b₂ ++ ')' :: rest)) = some (e, b₂ ++ ')' :: rest) :=
    hinner hlen ht (hb₂.apart (by decide) t rest)
      (.append hb₂ (stops_cons rest (by decide) (by decide)))
  have hclose : expect [')'] (spaces (b₂ ++ ')' :: rest)) = some rest :=
    skips_spaces.expect_close hb₂ (by decide) rest
  simp only [List.append_assoc, List.singleton_append]
  simp only [parenthesized, List.cons_append, expect_singleton, spaces_append hb₁, hblanks, hread,
    hclose, Option.bind_eq_bind, Option.bind_some, Option.pure_def]

/-- A text that starts with a character of a name is read as a name or as a relation of related
objects. -/
theorem operand_of_name {inner : Parser Rule} {n : String} (hn : IsName n) (rest : List Char) :
    operand inner (n.toList ++ rest) =
      (tupleToUserset (n.toList ++ rest)).or (computedUserset (n.toList ++ rest)) := by
  obtain ⟨c, s, hcons, hc⟩ := hn.exists_cons
  have hbracket : expect ['['] (n.toList ++ rest) = none :=
    expect_eq_none (by simpa [hcons] using ne_of_isNameChar hc (by decide))
  have hparen : expect ['('] (n.toList ++ rest) = none :=
    expect_eq_none (by simpa [hcons] using ne_of_isNameChar hc (by decide))
  simp [operand, orElse, typeRestriction, parenthesized, hbracket, hparen]

/-- An operand is read back unless `from` can follow. -/
theorem operand_append {inner : Parser Rule} {n : Nat} (hinner : ReadsWhole inner n)
    {e : Rule} {t rest : List Char} (ht : Written .operand e t) (hlen : t.length ≤ n)
    (ha : Apart t rest) (hs : Stops ['f'] rest) : operand inner (t ++ rest) = some (e, rest) := by
  cases ht with
  | direct hb₁ ht htu hu hb₂ =>
    rw [operand, orElse, typeRestriction_append hb₁ ht htu hu hb₂ rest, Option.some_or]
  | @computed m hm =>
    have hhead := Apart.head (t := []) hm ha
    -- the name is first read as the start of a relation of related objects
    have hfrom : tupleToUserset (m.toList ++ rest) = none := by
      rw [tupleToUserset, identifier_append hm hhead]
      exact hs.keyword_eq_none (by decide) _
    rw [operand_of_name hm, hfrom]
    simp [computedUserset, identifier_append hm hhead]
  | @fromTupleset tupleset m b₁ b₂ hm hb₁ hb₂ ht =>
    have hread := tupleToUserset_append hm hb₁ hb₂ ht (Apart.head ht ha)
    simp only [List.append_assoc] at hread ⊢
    rw [operand_of_name hm, hread, Option.some_or]
  | @parenthesized e b₁ t b₂ hb₁ ht hb₂ =>
    have hbracket : typeRestriction (['('] ++ b₁ ++ t ++ b₂ ++ [')'] ++ rest) = none := by
      simp [typeRestriction, expect]
    have hlt : t.length < n := by
      simp only [List.length_append, List.length_singleton] at hlen
      omega
    rw [operand, orElse, hbracket, Option.none_or, orElse,
      parenthesized_append hinner hb₁ ht hb₂ hlt rest, Option.some_or]

/-! ### Levels of binding -/

/-- Reads an operator with the blanks around it. -/
def operator (word s : List Char) : Option (List Char) := expect word (spaces s) >>= spaces₁

theorem behind_eq_bind (word : List Char) (p : Parser Rule) :
    behind word p = fun s => operator word s >>= p := by
  funext s
  simp [behind, operator, Option.bind_assoc]

theorem OperatorText.operator_append {w : Char} {word b t : List Char}
    (hb : OperatorText (w :: word) b) (hw : isSpace w = false) (ht : Solid t) (rest : List Char) :
    b ≠ [] ∧ operator (w :: word) (b ++ (t ++ rest)) = some (t ++ rest) := by
  obtain ⟨b₁, b₂, hb₁, hb₂, rfl⟩ := hb
  refine ⟨by simp, ?_⟩
  have hword : spaces (w :: word ++ (b₂ ++ (t ++ rest))) = w :: word ++ (b₂ ++ (t ++ rest)) :=
    spaces_eq_self (by simpa using hw)
  rw [operator, List.append_assoc, List.append_assoc, spaces_append hb₁, hword, expect_append]
  simp [spaces₁_append hb₂, (ht.append rest).spaces_eq]

theorem OperatorText.stops {w : Char} {word b cs : List Char} (hb : OperatorText (w :: word) b)
    (hw : isSpace w = false) (hcs : w ∉ cs) (rest : List Char) : Stops cs (b ++ rest) := by
  obtain ⟨b₁, b₂, hb₁, -, rfl⟩ := hb
  rw [List.append_assoc, List.append_assoc]
  exact .append hb₁ (stops_cons _ hw hcs)

theorem Stops.operator_eq_none {cs rest : List Char} (h : Stops cs rest) {w : Char}
    {word : List Char} (hw : w ∈ cs) (p : Parser Rule) :
    (operator (w :: word) rest >>= p) = none := by
  simp [operator, h.expect_spaces hw]

section Levels

variable {w : Char} {word : List Char} {join : List Rule → Rule} {p : Parser Rule}

/-- A single element of a level stays as it is. -/
theorem level_single {e : Rule} {t rest cs : List Char} (h : p (t ++ rest) = some (e, rest))
    (hs : Stops cs rest) (hw : w ∈ cs) :
    level (w :: word) join p (t ++ rest) = some (e, rest) := by
  have hmany : many (behind (w :: word) p) rest = ([], rest) := by
    rw [behind_eq_bind]
    exact many_eq_nil (hs.operator_eq_none hw p)
  simp [level, h, hmany]

/-- Two or more elements of a level are joined. -/
theorem level_joined {W : Rule → List Char → Prop} {cs : List Char} {N : Nat}
    (hp : ReadsList (OperatorText (w :: word)) W (operator (w :: word)) p (Stops cs) N)
    {e e' : Rule} {es : List Rule} {t u rest : List Char} (ht : W e t) (htu : Apart t u)
    (hu : Behind (OperatorText (w :: word)) W (e' :: es) u) (hN : (t ++ u).length ≤ N)
    (ha : Apart (t ++ u) rest) (hs : Stops (w :: cs) rest) :
    level (w :: word) join p (t ++ u ++ rest) = some (join (e :: e' :: es), rest) := by
  have hs' : Stops cs rest := hs.mono (List.subset_cons_self w cs)
  rw [List.length_append] at hN
  have hfirst := hp.first_eq ht htu hu (by omega) ha hs'
  have hmany : many (behind (w :: word) p) (u ++ rest) = (e' :: es, rest) := by
    rw [behind_eq_bind]
    exact hp.many_eq hu (by omega) ha.right hs'
      (hs.operator_eq_none List.mem_cons_self p)
  simp [level, hfirst, hmany]

end Levels

section Reading

variable {inner : Parser Rule} {n : Nat} {e : Rule} {t rest : List Char}

theorem readsList_operands (hinner : ReadsWhole inner n) :
    ReadsList (OperatorText ['a', 'n', 'd']) (Written .operand) (operator ['a', 'n', 'd'])
      (operand inner) (Stops ['f']) n where
  sep_append rest hb ht := hb.operator_append (by decide) ht.solid rest
  append hlen ht ha hs := operand_append hinner ht hlen ha hs
  follows_sep rest hb := hb.stops (by decide) (by decide) rest

/-- A conjunction is read back unless `from` or `and` can follow. -/
theorem intersectionLevel_append (hinner : ReadsWhole inner n) (ht : Written .conjunction e t)
    (hlen : t.length ≤ n) (ha : Apart t rest) (hs : Stops ['a', 'f'] rest) :
    intersectionLevel inner (t ++ rest) = some (e, rest) := by
  cases ht with
  | operand ht =>
    exact level_single (operand_append hinner ht hlen ha (hs.mono (by decide))) hs (by decide)
  | intersection ht htu hu =>
    exact level_joined (readsList_operands hinner) ht htu hu hlen ha hs

theorem readsList_conjunctions (hinner : ReadsWhole inner n) :
    ReadsList (OperatorText ['o', 'r']) (Written .conjunction) (operator ['o', 'r'])
      (intersectionLevel inner) (Stops ['a', 'f']) n where
  sep_append rest hb ht := hb.operator_append (by decide) ht.solid rest
  append hlen ht ha hs := intersectionLevel_append hinner ht hlen ha hs
  follows_sep rest hb := hb.stops (by decide) (by decide) rest

/-- A disjunction is read back unless `from`, `and` or `or` can follow. -/
theorem unionLevel_append (hinner : ReadsWhole inner n) (ht : Written .disjunction e t)
    (hlen : t.length ≤ n) (ha : Apart t rest) (hs : Stops ['o', 'a', 'f'] rest) :
    unionLevel inner (t ++ rest) = some (e, rest) := by
  cases ht with
  | conjunction ht =>
    exact level_single (intersectionLevel_append hinner ht hlen ha (hs.mono (by decide))) hs
      (by decide)
  | union ht htu hu =>
    exact level_joined (readsList_conjunctions hinner) ht htu hu hlen ha hs

/-- What stands behind `but not` is read back unless `from` can follow. -/
theorem butNot_append (hinner : ReadsWhole inner n) {b₁ b₂ b₃ : List Char} (hb₁ : Gap b₁)
    (hb₂ : Gap b₂) (hb₃ : Gap b₃) (ht : Written .operand e t) (hlen : t.length ≤ n)
    (ha : Apart t rest) (hs : Stops ['f'] rest) :
    butNot inner (b₁ ++ (['b', 'u', 't'] ++ (b₂ ++ (['n', 'o', 't'] ++ (b₃ ++ (t ++ rest)))))) =
      some (e, rest) := by
  have hbut := fun s => spaces_eq_self (s := ['b', 'u', 't'] ++ s) (by simp [isSpace])
  have hnot := fun s => spaces_eq_self (s := ['n', 'o', 't'] ++ s) (by simp [isSpace])
  simp only [butNot, spaces₁_append hb₁, hbut, expect_append, spaces₁_append hb₂, hnot,
    spaces₁_append hb₃, (ht.solid.append rest).spaces_eq, Option.bind_eq_bind, Option.bind_some,
    operand_append hinner ht hlen ha hs]

/-- An expression is read back unless an operator can follow. -/
theorem expressionWith_append (hinner : ReadsWhole inner n) (ht : Written .whole e t)
    (hlen : t.length ≤ n) (ha : Apart t rest) (hs : Stops ['a', 'o', 'b', 'f'] rest) :
    expressionWith inner (t ++ rest) = some (e, rest) := by
  cases ht with
  | disjunction ht =>
    -- nothing is left out, since `but` does not follow
    have hbut : butNot inner rest = none := hs.keyword_eq_none (by decide) _
    have hbase := unionLevel_append hinner ht hlen ha (hs.mono (by decide))
    simp [expressionWith, hbase, optionally, hbut]
  | @difference base subtract t b₁ b₂ b₃ u ht hb₁ hb₂ hb₃ hu =>
    simp only [List.length_append] at hlen
    have hsubtract := butNot_append hinner hb₁ hb₂ hb₃ hu (by omega) ha.right (hs.mono (by decide))
    -- `but` continues no disjunction
    have hstops : Stops ['o', 'a', 'f'] (b₁ ++ (['b', 'u', 't'] ++ (b₂ ++ (['n', 'o', 't'] ++
        (b₃ ++ (u ++ rest)))))) :=
      .append hb₁.1 (stops_cons _ (by decide) (by decide))
    have hbase := unionLevel_append hinner ht (by omega) (hb₁.apart t _) hstops
    simp only [List.append_assoc]
    simp only [expressionWith, hbase, optionally, hsubtract, Option.bind_eq_bind, Option.bind_some,
      Option.pure_def]

/-- Parentheses nest less deep than the text is long. -/
theorem readsWhole_expressionWithin (n : Nat) : ReadsWhole (expressionWithin n) n := by
  induction n with
  | zero => exact fun h => absurd h (Nat.not_lt_zero _)
  -- the level inside parentheses is shorter by both of them
  | succ n ih => exact fun h ht ha hs => expressionWith_append ih ht (Nat.le_of_lt_succ h) ha hs

/-- **An expression is read back** unless an operator can follow. -/
theorem expression_append (ht : Written .whole e t) (ha : Apart t rest)
    (hs : Stops ['a', 'o', 'b', 'f'] rest) : expression (t ++ rest) = some (e, rest) :=
  readsWhole_expressionWithin _ (by simp only [List.length_append]; omega) ht ha hs

end Reading

end Relata.Language
