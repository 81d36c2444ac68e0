import Relata.Proofs.Blank
import Relata.Proofs.Language.Expression

/-!
# Definitions read back

Types, conditions and headers are read back from each of their texts. What is read is followed by
layout, so each statement gives what is left behind it.

## Main results

* `ReadsSequence.many_eq` — a list with layout behind its elements is read to its end.
* `WrittenType.append`, `WrittenCondition.append` — **a definition is read back.**
* `closingBrace_append` — a block ends at the brace that closes it.
-/

namespace Relata.Language

/-! ### Layout -/

/-- Nothing that could be skipped is left. -/
theorem layout_eq_nil_or_solid (s : List Char) : layout s = [] ∨ Solid (layout s) := by
  have key : ∀ inComment, skipLayout inComment s = [] ∨ Solid (skipLayout inComment s) := by
    induction s with
    | nil => exact fun _ => Or.inl (by simp [skipLayout])
    | cons c s ih =>
      intro inComment
      cases inComment with
      | true => exact ih _
      | false =>
        rw [skipLayout]
        split
        · exact ih false
        · next hsp =>
          split
          · exact ih true
          · next hne => exact Or.inr ⟨c, s, rfl, by simpa using hsp, hne⟩
  exact key false

@[simp] theorem layout_layout (s : List Char) : layout (layout s) = layout s := by
  rcases layout_eq_nil_or_solid s with h | h
  · rw [h, layout_nil]
  · exact h.layout_eq

theorem Layout.head {b : List Char} (hb : Layout b) :
    ∀ c ∈ b.head?, isNameChar c = false ∧ c ≠ '<' := by
  intro d hd
  cases hb with
  | nil => simp at hd
  | @spacing c b hc =>
    obtain rfl : c = d := by simpa using hd
    simp only [isSpacing, Bool.or_eq_true, decide_eq_true_eq] at hc
    rcases hc with ((rfl | rfl) | rfl) | rfl <;> decide
  | comment =>
    obtain rfl : '#' = d := by simpa using hd
    decide

theorem Layout.apart {b : List Char} (hb : Layout b) (hne : b ≠ []) (t s : List Char) :
    Apart t (b ++ s) := by
  cases b with
  | nil => exact absurd rfl hne
  | cons c b => exact apart_of_head (by simpa using (hb.head c rfl).1)

theorem NextIn.expect_eq_none {cs rest : List Char} (h : NextIn cs rest) {w : Char}
    (hw : w ∉ cs) (word : List Char) : expect (w :: word) (layout rest) = none :=
  Language.expect_eq_none fun c hc hcw => hw (hcw ▸ h c hc)

/-! ### Sequences -/

section Sequences

variable {α : Type} {W : α → List Char → Prop} {p : Parser α} {cs : List Char}

/-- What sequences are read with: the elements start with characters in `cs`, and `p` reads an
element back where layout and a character in `cs` follow. -/
structure ReadsSequence (W : α → List Char → Prop) (p : Parser α) (cs : List Char) : Prop where
  start : ∀ {a t}, W a t → ∃ c s, t = c :: s ∧ c ∈ cs ∧ isSpacing c = false ∧ c ≠ '#'
  append : ∀ {a t rest}, W a t → Apart t rest → NextIn cs rest →
    withLayout p (t ++ rest) = some (a, layout rest)

theorem ReadsSequence.nextIn (h : ReadsSequence W p cs) {as : List α} {u rest : List Char}
    (hu : Sequence W as u) (hn : NextIn cs rest) : NextIn cs (u ++ rest) := by
  cases hu with
  | nil => exact hn
  | cons ht =>
    obtain ⟨c, s, rfl, hc, hsp, hne⟩ := h.start ht
    intro d hd
    rw [layout_eq_self (by simpa using ⟨hsp, hne⟩)] at hd
    obtain rfl : c = d := by simpa using hd
    exact hc

/-- **A list with layout behind its elements is read to its end and no further.** -/
theorem ReadsSequence.many_eq (h : ReadsSequence W p cs) {as : List α} {u rest : List Char}
    (hu : Sequence W as u) (ha : Apart u rest) (hn : NextIn cs rest)
    (hstop : p (layout rest) = none) :
    many (withLayout p) (layout (u ++ rest)) = (as, layout rest) := by
  induction hu with
  | nil => exact many_eq_nil (by simp [withLayout, hstop])
  | @cons a as t b u ht hb htu hu ih =>
    -- the layout behind the element is skipped with it
    obtain ⟨c, s, hcons, -, hsp, hne⟩ := h.start ht
    have hsolid : Solid t := ⟨c, s, hcons, hsp, hne⟩
    have hstep : withLayout p (t ++ (b ++ (u ++ rest))) = some (a, layout (u ++ rest)) := by
      rw [h.append ht ?_ (.append hb (h.nextIn hu hn)), hb.layout_append]
      rw [← List.append_assoc]
      exact htu.append (by rwa [← List.append_assoc])
    have hlt : (layout (u ++ rest)).length < (t ++ (b ++ (u ++ rest))).length := by
      have h₁ := length_layout_le (u ++ rest)
      have h₂ := List.length_pos_iff.mpr hsolid.ne_nil
      simp only [List.length_append] at h₁ ⊢
      omega
    rw [List.append_assoc, List.append_assoc, (hsolid.append _).layout_eq, many_eq_cons hstep hlt,
      ih ha.right]

end Sequences

/-! ### Types -/

/-- A relation is read back unless an operator can follow. -/
theorem WrittenRelation.append {r : Relation} {t rest : List Char} (h : WrittenRelation r t)
    (ha : Apart t rest) (hs : Stops ['a', 'o', 'b', 'f'] rest) :
    relationDefinition (t ++ rest) = some (r, rest) := by
  cases h with
  | @mk n e b₁ b₂ b₃ t hb₁ hn hb₂ hb₃ ht =>
    have hdefine : ∀ s, spaces (['d', 'e', 'f', 'i', 'n', 'e'] ++ s) =
        ['d', 'e', 'f', 'i', 'n', 'e'] ++ s :=
      fun s => spaces_eq_self (by simp [isSpace])
    have hname : ∀ s,
        identifier (n.toList ++ (b₂ ++ ([':'] ++ s))) = some (n, b₂ ++ ([':'] ++ s)) := fun s =>
      identifier_append hn (Apart.head (t := []) hn (hb₂.apart (by decide) _ s))
    have hcolon : ∀ s, expect [':'] (spaces (b₂ ++ ([':'] ++ s))) = some s :=
      skips_spaces.expect_close hb₂ (by decide)
    have hrule : expression (spaces (b₃ ++ (t ++ rest))) = some (e, rest) := by
      rw [skips_spaces.append_solid hb₃ (ht.solid.append rest)]
      exact expression_append ht ha.right hs
    simp only [List.append_assoc]
    simp only [relationDefinition, hdefine, expect_append, spaces₁_append hb₁,
      (hn.solid.append _).spaces_eq, hname, hcolon, hrule, Option.bind_eq_bind, Option.bind_some,
      Option.pure_def]

theorem WrittenRelation.start {r : Relation} {t : List Char} (h : WrittenRelation r t) :
    ∃ s, t = 'd' :: s := by
  cases h with
  | mk => exact ⟨_, rfl⟩

/-- The relations of a type end where a type, a condition or the text ends them. -/
theorem readsSequence_relations :
    ReadsSequence WrittenRelation relationDefinition ['d', 't', 'c'] where
  start h := by
    obtain ⟨s, rfl⟩ := h.start
    exact ⟨'d', s, rfl, by decide, by decide, by decide⟩
  append h ha hn := by
    simp [withLayout, h.append ha (hn.stops (by decide))]

/-- A section of relations is read to its end. -/
theorem relationsSection_append {rs : List Relation} {b u rest : List Char} (hb : Layout b)
    (hu : Sequence WrittenRelation rs u) (ha : Apart u rest) (hn : NextIn ['t', 'c'] rest) :
    relationsSection (['r', 'e', 'l', 'a', 't', 'i', 'o', 'n', 's'] ++ (b ++ (u ++ rest))) =
      some (rs, layout rest) := by
  have hstop : relationDefinition (layout rest) = none := by
    have hspaces : spaces (layout rest) = layout rest := by
      rcases layout_eq_nil_or_solid rest with h | h
      · rw [h]; rfl
      · exact h.spaces_eq
    rw [relationDefinition, hspaces, hn.expect_eq_none (by decide)]
    rfl
  have hmany := readsSequence_relations.many_eq hu ha (hn.mono (by decide)) hstop
  rw [relationsSection, expect_append, Option.bind_eq_bind, Option.bind_some, hb.layout_append,
    hmany]
  rfl

theorem relationsSection_eq_none {rest : List Char} (hn : NextIn ['t', 'c'] rest) :
    relationsSection (layout rest) = none := by
  rw [relationsSection, hn.expect_eq_none (by decide)]
  rfl

theorem layout_relations (s : List Char) :
    layout (['r', 'e', 'l', 'a', 't', 'i', 'o', 'n', 's'] ++ s) =
      ['r', 'e', 'l', 'a', 't', 'i', 'o', 'n', 's'] ++ s :=
  layout_eq_self (by simp [isSpacing])

/-- Behind its name a type goes on with its relations, if it has any. -/
theorem typeDefinition_name {n : String} {b s : List Char} (hb : Gap b) (hn : IsName n)
    (hs : ∀ c ∈ s.head?, isNameChar c = false) :
    typeDefinition (['t', 'y', 'p', 'e'] ++ b ++ n.toList ++ s) =
      some (⟨n, (optionally relationsSection (layout s)).1.getD []⟩,
        (optionally relationsSection (layout s)).2) := by
  have hread : identifier (n.toList ++ s) = some (n, s) := identifier_append hn hs
  simp only [List.append_assoc]
  simp only [typeDefinition, expect_append, spaces₁_append hb, (hn.solid.append _).spaces_eq,
    hread, Option.bind_eq_bind, Option.bind_some, Option.pure_def]

/-- A type without relations is read with the layout behind it. -/
theorem typeDefinition_bare {n : String} {b s : List Char} (hb : Gap b) (hn : IsName n)
    (hs : ∀ c ∈ s.head?, isNameChar c = false) (hnext : NextIn ['t', 'c'] s) :
    typeDefinition (['t', 'y', 'p', 'e'] ++ b ++ n.toList ++ s) = some (⟨n, []⟩, layout s) := by
  rw [typeDefinition_name hb hn hs, optionally, relationsSection_eq_none hnext]
  rfl

/-- A type is read with the section of relations behind it. -/
theorem typeDefinition_section {n : String} {b b' s rest : List Char} {rs : List Relation}
    (hb : Gap b) (hn : IsName n) (hb' : Layout b') (hne : b' ≠ [])
    (h : relationsSection (['r', 'e', 'l', 'a', 't', 'i', 'o', 'n', 's'] ++ s) = some (rs, rest)) :
    typeDefinition (['t', 'y', 'p', 'e'] ++ b ++ n.toList ++
      (b' ++ (['r', 'e', 'l', 'a', 't', 'i', 'o', 'n', 's'] ++ s))) = some (⟨n, rs⟩, rest) := by
  rw [typeDefinition_name hb hn (Apart.head (t := []) hn (hb'.apart hne _ _)),
    hb'.layout_append, layout_relations, optionally, h]
  rfl

/-- **A type is read back**, and the layout behind it with it. -/
theorem WrittenType.append {t : TypeDefinition} {s rest : List Char} (h : WrittenType t s)
    (ha : Apart s rest) (hn : NextIn ['t', 'c'] rest) :
    typeDefinition (s ++ rest) = some (t, layout rest) := by
  cases h with
  | bare hb hname => exact typeDefinition_bare hb hname (Apart.head hname ha) hn
  | withRelations hb₁ hname hb₂ hne hb₃ hu =>
    have hsection := relationsSection_append hb₃ hu ha.right hn
    simpa only [List.append_assoc] using typeDefinition_section hb₁ hname hb₂ hne hsection

/-! ### Parameters -/

/-- What may follow a parameter type: neither more of its word nor an argument. -/
def EndsWord (rest : List Char) : Prop := ∀ c ∈ rest.head?, isNameChar c = false ∧ c ≠ '<'

theorem Layout.endsWord {b : List Char} (hb : Layout b) {c : Char} (hc : isNameChar c = false)
    (hne : c ≠ '<') (s : List Char) : EndsWord (b ++ c :: s) := by
  intro d hd
  cases b with
  | nil =>
    obtain rfl : c = d := by simpa using hd
    exact ⟨hc, hne⟩
  | cons e b => exact hb.head d (by simpa using hd)

/-- A character of the word of a parameter type. -/
theorem isNameChar_of_word {c : Char} (h : (Text.isAlphanumeric c || c = '_') = true) :
    isNameChar c = true := by
  simp only [Bool.or_eq_true, decide_eq_true_eq] at h
  simp only [isNameChar, Bool.or_eq_true, decide_eq_true_eq]
  exact Or.inl (Or.inl h)

theorem IsParameterType.solid {type : String} (h : IsParameterType type) : Solid type.toList := by
  obtain ⟨word, argument, htext, hne, hword, -⟩ := h
  cases word with
  | nil => exact absurd rfl hne
  | cons c word =>
    rw [htext]
    exact solid_cons (isNameChar_of_word (hword c List.mem_cons_self)) _

/-- A parameter type is read back if its word ends. -/
theorem parameterType_append {type : String} (h : IsParameterType type) {rest : List Char}
    (hrest : EndsWord rest) : parameterType (type.toList ++ rest) = some (type, rest) := by
  obtain ⟨word, argument, htext, hne, hword, hargument⟩ := h
  have htype : String.ofList (word ++ argument) = type := by rw [← htext, String.ofList_toList]
  have hread : ∀ s, (∀ c ∈ s.head?, isNameChar c = false) →
      chars₁ (fun c => Text.isAlphanumeric c || c = '_') (word ++ s) = some (word, s) := by
    intro s hs
    refine chars₁_append hne hword fun c hc => Bool.eq_false_iff.mpr fun h => ?_
    exact absurd (isNameChar_of_word h) (by simp [hs c hc])
  rcases hargument with rfl | ⟨inside, hinside, hclose, rfl⟩
  · have hnone : typeArgument rest = none := by
      rw [typeArgument, expect_eq_none fun c hc => (hrest c hc).2]
      rfl
    rw [htext, List.append_nil, parameterType, hread rest fun c hc => (hrest c hc).1]
    simp [optionally, hnone, ← htype]
  · -- an argument runs up to the first closing bracket, and there is none inside
    have hinner : chars₁ (· != '>') (inside ++ '>' :: rest) = some (inside, '>' :: rest) := by
      refine chars₁_append hinside ?_ (by simp)
      intro c hc
      simpa using fun h : c = '>' => hclose (h ▸ hc)
    have hsome : typeArgument ('<' :: (inside ++ '>' :: rest)) =
        some ('<' :: (inside ++ ['>']), rest) := by
      simp [typeArgument, expect_singleton, hinner]
    rw [htext, List.append_assoc, List.cons_append, List.append_assoc, List.singleton_append,
      parameterType, hread _ (by simpa using (by decide : isNameChar '<' = false))]
    simp [optionally, hsome, ← htype]

/-- A parameter is read back if the word of its type ends. -/
theorem WrittenParameter.append {p : String × String} {t rest : List Char}
    (h : WrittenParameter p t) (hrest : EndsWord rest) :
    conditionParameter (t ++ rest) = some (p, rest) := by
  cases h with
  | @mk n type b₁ b₂ hn hb₁ hb₂ htype =>
    have hname : ∀ s,
        identifier (n.toList ++ (b₁ ++ ([':'] ++ s))) = some (n, b₁ ++ ([':'] ++ s)) := fun s =>
      identifier_append hn (Apart.head (t := []) hn (hb₁.apart (by decide) _ s))
    have hcolon : ∀ s, expect [':'] (spaces (b₁ ++ ([':'] ++ s))) = some s :=
      skips_spaces.expect_close hb₁ (by decide)
    have hblanks : spaces (b₂ ++ (type.toList ++ rest)) = type.toList ++ rest :=
      skips_spaces.append_solid hb₂ (htype.solid.append rest)
    simp only [List.append_assoc]
    simp only [conditionParameter, hname, hcolon, hblanks, parameterType_append htype hrest,
      Option.bind_eq_bind, Option.bind_some, Option.pure_def]

theorem WrittenParameter.solid {p : String × String} {t : List Char} (h : WrittenParameter p t) :
    Solid t := by
  cases h with
  | mk hn =>
    simp only [List.append_assoc]
    exact hn.solid.append _

theorem readsList_parameters (N : Nat) :
    ReadsList (CommaWithin Layout) WrittenParameter layoutComma conditionParameter EndsWord N where
  sep_append rest hb ht := skips_layout.commaBetween_append hb ht.solid rest
  append _ ht _ hrest := ht.append hrest
  follows_sep := by
    rintro b rest ⟨b₁, b₂, hb₁, -, rfl⟩
    rw [List.append_assoc, List.cons_append]
    exact hb₁.endsWord (by decide) (by decide) _

/-- Parameters in parentheses are read back, whatever follows. -/
theorem WrittenParameters.append {ps : List (String × String)} {t : List Char}
    (h : WrittenParameters ps t) (rest : List Char) : parameters (t ++ rest) = some (ps, rest) := by
  cases h with
  | @empty b hb =>
    have hname : identifier (')' :: rest) = none := identifier_eq_none (by simp; decide)
    have hnone : separated layoutComma conditionParameter (')' :: rest) = none := by
      simp [separated, conditionParameter, hname]
    have hbracket : Solid (')' :: rest) := ⟨')', rest, rfl, by decide, by decide⟩
    have hlayout : layout (b ++ ')' :: rest) = ')' :: rest :=
      skips_layout.append_solid hb hbracket
    have hclose : layout (')' :: rest) = ')' :: rest := hbracket.layout_eq
    simp only [List.append_assoc, List.singleton_append]
    simp only [parameters, List.cons_append, expect_singleton, hlayout, optionally, hnone, hclose,
      Option.bind_eq_bind, Option.bind_some, Option.pure_def, Option.getD_none]
  | @list p ps b₁ t u b₂ hb₁ ht htu hu hb₂ =>
    -- no comma, so the list ends
    have hstop : (layoutComma (b₂ ++ ')' :: rest) >>= conditionParameter) = none := by
      have hlayout : layout (b₂ ++ ')' :: rest) = ')' :: rest :=
        skips_layout.append_solid hb₂ ⟨')', rest, rfl, by decide, by decide⟩
      simp [layoutComma, hlayout, expect]
    have hapart : Apart (t ++ u) (b₂ ++ ')' :: rest) :=
      apart_of_head fun d hd => (hb₂.endsWord (by decide) (by decide) rest d hd).1
    have hparameters := (readsList_parameters (t ++ u).length).separated_eq ht htu hu
      (Nat.le_refl _) hapart (hb₂.endsWord (by decide) (by decide) rest) hstop
    have hlayout := (ht.solid.append (u ++ (b₂ ++ ')' :: rest))).layout_eq
    have hclose := skips_layout.expect_close hb₂ (c := ')') (by decide) rest
    simp only [List.append_assoc, List.singleton_append]
    simp only [parameters, List.cons_append, expect_singleton, hb₁.layout_append, hlayout,
      optionally, hparameters, hclose, Option.bind_eq_bind, Option.bind_some, Option.pure_def,
      Option.getD_some]

/-! ### Conditions -/

theorem closingBrace_open (depth : Nat) (s : List Char) :
    closingBrace depth ('\x7b' :: s) =
      (closingBrace (depth + 1) s).map fun (b, r) => ('\x7b' :: b, r) := by
  cases depth <;> simp [closingBrace]

theorem closingBrace_close (depth : Nat) (s : List Char) :
    closingBrace (depth + 1) ('\x7d' :: s) =
      (closingBrace depth s).map fun (b, r) => ('\x7d' :: b, r) := by
  simp [closingBrace]

theorem closingBrace_other (depth : Nat) {c : Char} (hopen : c ≠ '\x7b') (hclose : c ≠ '\x7d')
    (s : List Char) :
    closingBrace depth (c :: s) = (closingBrace depth s).map fun (b, r) => (c :: b, r) := by
  cases depth <;> simp [closingBrace, hopen, hclose]

/-- With `depth` braces open around `body`, no prefix of it closes more than are open, and the whole
leaves none of them open. -/
def BalancedWithin (depth : Nat) (body : List Char) : Prop :=
  (∀ p, p <+: body → p.count '\x7d' ≤ depth + p.count '\x7b') ∧
    body.count '\x7d' = depth + body.count '\x7b'

theorem balancedWithin_zero {body : List Char} : BalancedWithin 0 body ↔ Balanced body := by
  simp [BalancedWithin, Balanced]

theorem BalancedWithin.prefix_cons {depth : Nat} {c : Char} {body : List Char}
    (h : BalancedWithin depth (c :: body)) :
    (∀ p, p <+: body → (c :: p).count '\x7d' ≤ depth + (c :: p).count '\x7b') ∧
      (c :: body).count '\x7d' = depth + (c :: body).count '\x7b' :=
  ⟨fun p hp => h.1 (c :: p) (List.cons_prefix_cons.mpr ⟨rfl, hp⟩), h.2⟩

/-- **A block ends at the brace that closes it.** -/
theorem closingBrace_append {body : List Char} {depth : Nat} (h : BalancedWithin depth body)
    (rest : List Char) : closingBrace depth (body ++ '\x7d' :: rest) = some (body, rest) := by
  induction body generalizing depth with
  | nil =>
    obtain rfl : depth = 0 := by simpa using h.2.symm
    simp [closingBrace]
  | cons c body ih =>
    obtain ⟨hle, hall⟩ := h.prefix_cons
    rw [List.cons_append]
    by_cases hopen : c = '\x7b'
    · subst hopen
      have hbody : BalancedWithin (depth + 1) body := by
        simp only [List.count_cons_self, List.count_cons_of_ne, ne_eq, Char.reduceEq,
          not_false_eq_true] at hle hall
        exact ⟨fun p hp => by have := hle p hp; omega, by omega⟩
      rw [closingBrace_open, ih hbody, Option.map_some]
    · by_cases hclose : c = '\x7d'
      · subst hclose
        simp only [List.count_cons_self, List.count_cons_of_ne, ne_eq, Char.reduceEq,
          not_false_eq_true] at hle hall
        cases depth with
        | zero =>
          -- the brace would close more than are open
          have := hle [] List.nil_prefix
          simp at this
        | succ depth =>
          have hbody : BalancedWithin depth body :=
            ⟨fun p hp => by have := hle p hp; omega, by omega⟩
          rw [closingBrace_close, ih hbody, Option.map_some]
      · -- no other character changes how many are open
        simp only [List.count_cons_of_ne hopen, List.count_cons_of_ne hclose] at hle hall
        rw [closingBrace_other depth hopen hclose, ih ⟨hle, hall⟩, Option.map_some]

theorem count_eq_zero_of_blank {pad : List Char} (h : ∀ c ∈ pad, Text.isBlank c = true) {c : Char}
    (hc : Text.isBlank c = false) : pad.count c = 0 := by
  rw [List.count_eq_zero]
  exact fun hmem => by simp [h c hmem] at hc

/-- White space around a text leaves its braces balanced. -/
theorem Balanced.pad {pad₁ body pad₂ : List Char} (h : Balanced body)
    (h₁ : ∀ c ∈ pad₁, Text.isBlank c = true) (h₂ : ∀ c ∈ pad₂, Text.isBlank c = true) :
    Balanced (pad₁ ++ body ++ pad₂) := by
  -- no part of the white space has a brace
  have hpart : ∀ c, Text.isBlank c = false → ∀ i j,
      (pad₁.take i).count c = 0 ∧ (pad₂.take j).count c = 0 := fun c hc i j =>
    ⟨count_eq_zero_of_blank (fun d hd => h₁ d (List.mem_of_mem_take hd)) hc,
      count_eq_zero_of_blank (fun d hd => h₂ d (List.mem_of_mem_take hd)) hc⟩
  have hwhole : ∀ c, Text.isBlank c = false → (pad₁ ++ body ++ pad₂).count c = body.count c := by
    intro c hc
    simp only [List.count_append, count_eq_zero_of_blank h₁ hc, count_eq_zero_of_blank h₂ hc]
    omega
  refine ⟨fun p hp => ?_, ?_⟩
  · rw [List.prefix_iff_eq_take.mp hp, List.take_append, List.take_append, List.count_append,
      List.count_append, List.count_append, List.count_append]
    obtain ⟨hc₁, hc₂⟩ := hpart '\x7d' (by decide) p.length (p.length - (pad₁ ++ body).length)
    obtain ⟨ho₁, ho₂⟩ := hpart '\x7b' (by decide) p.length (p.length - (pad₁ ++ body).length)
    have := h.1 _ (List.take_prefix (p.length - pad₁.length) body)
    omega
  · rw [hwhole _ (by decide), hwhole _ (by decide)]
    exact h.2

/-- The text in braces is read back without the white space at its ends. -/
theorem bracedBlock_append {body : String} {pad₁ pad₂ : List Char} (h : IsConditionBody body)
    (h₁ : ∀ c ∈ pad₁, Text.isBlank c = true) (h₂ : ∀ c ∈ pad₂, Text.isBlank c = true)
    (rest : List Char) :
    bracedBlock (['\x7b'] ++ pad₁ ++ body.toList ++ pad₂ ++ ['\x7d'] ++ rest) =
      some (body, rest) := by
  have hclose := closingBrace_append (balancedWithin_zero.mpr (h.2.pad h₁ h₂)) rest
  simp only [List.append_assoc, List.singleton_append] at hclose ⊢
  simp only [bracedBlock, List.cons_append, expect_singleton, hclose, Option.bind_eq_bind,
    Option.bind_some, Option.pure_def]
  rw [← List.append_assoc, Text.trim_append h₁ h₂, h.1, String.ofList_toList]

theorem WrittenParameters.start {ps : List (String × String)} {t : List Char}
    (h : WrittenParameters ps t) : ∃ u, t = '(' :: u := by
  cases h with
  | empty => exact ⟨_, rfl⟩
  | list => exact ⟨_, rfl⟩

/-- **A condition is read back**, whatever follows. -/
theorem WrittenCondition.append {c : Condition} {s : List Char} (h : WrittenCondition c s)
    (rest : List Char) : conditionDefinition (s ++ rest) = some (c, rest) := by
  cases h with
  | @mk n body ps b₁ b₂ t b₃ pad₁ pad₂ hb₁ hn hb₂ ht hb₃ hbody h₁ h₂ =>
    obtain ⟨u, hu⟩ := ht.start
    have hname : ∀ s, identifier (n.toList ++ (b₂ ++ (t ++ s))) = some (n, b₂ ++ (t ++ s)) := by
      intro s
      rw [hu]
      exact identifier_append hn (Apart.head (t := []) hn (hb₂.apart (by decide) _ _))
    have hblanks : ∀ s, spaces (b₂ ++ (t ++ s)) = t ++ s := by
      intro s
      rw [spaces_append hb₂, hu]
      exact spaces_eq_self (by simp [isSpace])
    have hlayout : ∀ s, layout (b₃ ++ (['\x7b'] ++ s)) = ['\x7b'] ++ s := by
      intro s
      rw [hb₃.layout_append]
      exact layout_eq_self (by simp [isSpacing])
    have hblock := bracedBlock_append hbody h₁ h₂ rest
    simp only [List.append_assoc] at hblock ⊢
    simp only [conditionDefinition, expect_append, spaces₁_append hb₁,
      (hn.solid.append _).spaces_eq, hname, hblanks, ht.append, hlayout, hblock,
      Option.bind_eq_bind, Option.bind_some, Option.pure_def]

/-! ### Items and headers -/

theorem WrittenItem.start {i : Item} {s : List Char} (h : WrittenItem i s) :
    ∃ c u, s = c :: u ∧ c ∈ ['t', 'c'] := by
  cases h with
  | type h =>
    cases h with
    | bare => exact ⟨'t', _, rfl, by decide⟩
    | withRelations => exact ⟨'t', _, rfl, by decide⟩
  | condition h =>
    cases h with
    | mk => exact ⟨'c', _, rfl, by decide⟩

/-- The items of a model end with the text. -/
theorem readsSequence_items : ReadsSequence WrittenItem item ['t', 'c'] where
  start h := by
    obtain ⟨c, s, rfl, hc⟩ := h.start
    have hne : ∀ c ∈ ['t', 'c'], isSpacing c = false ∧ c ≠ '#' := by decide
    exact ⟨c, s, rfl, hc, hne c hc⟩
  append := by
    intro i s rest h ha hn
    cases h with
    | type h => simp [withLayout, item, orElse, h.append ha hn]
    | @condition c s h =>
      -- the reader of types comes first, and gives up at the first character
      have hnone : typeDefinition (s ++ rest) = none := by
        cases h with
        | mk => simp [typeDefinition, expect]
      simp [withLayout, item, orElse, hnone, h.append rest]

theorem isSpace_of_version {c : Char} (h : (c.isDigit || c = '.') = true) : isSpace c = false := by
  refine Bool.eq_false_iff.mpr fun hc => ?_
  simp only [isSpace, Bool.or_eq_true, decide_eq_true_eq] at hc
  rcases hc with rfl | rfl <;> simp at h

/-- No version runs into a definition, or into the layout before it. -/
theorem NextIn.version_ends {rest : List Char} (h : NextIn ['t', 'c'] rest) :
    ∀ c ∈ rest.head?, (c.isDigit || c = '.') = false := by
  intro c hc
  by_cases hsp : isSpacing c = true
  · simp only [isSpacing, Bool.or_eq_true, decide_eq_true_eq] at hsp
    rcases hsp with ((rfl | rfl) | rfl) | rfl <;> decide
  · by_cases hne : c = '#'
    · subst hne
      decide
    · -- no layout, so it is the first character of a definition
      have hself : layout rest = rest := layout_eq_self fun d hd => by
        rw [Option.mem_unique hd hc]
        exact ⟨by simpa using hsp, hne⟩
      have hends : ∀ c ∈ ['t', 'c'], (c.isDigit || c = '.') = false := by decide
      exact hends c (h c (by rwa [hself]))

/-- A header is read back if its version ends. -/
theorem modelHeader_append {v : String} {b₁ b₂ rest : List Char} (hb₁ : Layout b₁) (hb₂ : Gap b₂)
    (hv : IsVersion v) (hrest : ∀ c ∈ rest.head?, (c.isDigit || c = '.') = false) :
    modelHeader (['m', 'o', 'd', 'e', 'l'] ++ b₁ ++ ['s', 'c', 'h', 'e', 'm', 'a'] ++ b₂ ++
      v.toList ++ rest) = some (v, rest) := by
  obtain ⟨hne, hchars⟩ := hv
  have hblanks : spaces (v.toList ++ rest) = v.toList ++ rest := by
    cases hcons : v.toList with
    | nil => exact absurd hcons hne
    | cons c s =>
      refine spaces_eq_self ?_
      simpa using isSpace_of_version (hchars c (by simp [hcons]))
  have hword : ∀ s, layout (['s', 'c', 'h', 'e', 'm', 'a'] ++ s) =
      ['s', 'c', 'h', 'e', 'm', 'a'] ++ s :=
    fun s => layout_eq_self (by simp [isSpacing])
  have hversion := chars₁_append hne hchars hrest
  simp only [List.append_assoc]
  simp only [modelHeader, expect_append, hb₁.layout_append, hword, spaces₁_append hb₂, hblanks,
    hversion, Option.bind_eq_bind, Option.bind_some, Option.pure_def, String.ofList_toList]

/-- **A model is read back**, and nothing is left. -/
theorem WrittenModel.model_eq {m : Model} {s : List Char} (h : WrittenModel m s) :
    model s = (m, []) := by
  cases h with
  | @mk v types conditions items b₁ h b₂ u comment hb₁ hh hb₂ hu hcomment htypes hconditions =>
    have hlast : layout comment = [] := by
      rcases hcomment with rfl | ⟨body, hbody, rfl⟩
      · rfl
      · exact layout_comment_end hbody
    have hnext : NextIn ['t', 'c'] (u ++ comment) :=
      readsSequence_items.nextIn hu (by simp [NextIn, hlast])
    have hapart : Apart u comment := by
      rcases hcomment with rfl | ⟨body, -, rfl⟩
      · exact apart_nil_right u
      · exact apart_of_head (by simpa using (by decide : isNameChar '#' = false))
    have hitems : many (withLayout item) (layout (u ++ comment)) = (items, []) := by
      rw [readsSequence_items.many_eq hu hapart (by simp [NextIn, hlast]) (by rw [hlast]; rfl),
        hlast]
    simp only [List.append_assoc]
    cases hh with
    | absent =>
      -- the items, or what follows them, do not start like a header
      have hnone : withLayout modelHeader (layout (u ++ comment)) = none := by
        rw [withLayout, modelHeader, hnext.expect_eq_none (by decide)]
        rfl
      simp only [model, List.nil_append, hb₁.layout_append, hb₂.layout_append, optionally, hnone,
        hitems, htypes, hconditions, Option.getD_none]
    | @mk v b₃ b₄ hb₃ hb₄ hv =>
      have hmodel : ∀ s, layout (['m', 'o', 'd', 'e', 'l'] ++ s) = ['m', 'o', 'd', 'e', 'l'] ++ s :=
        fun s => layout_eq_self (by simp [isSpacing])
      have hheader := modelHeader_append hb₃ hb₄ hv (hnext.append hb₂).version_ends
      simp only [List.append_assoc] at hheader ⊢
      simp only [model, hb₁.layout_append, hmodel, optionally, withLayout, hheader,
        hb₂.layout_append, hitems, htypes, hconditions, Option.bind_eq_bind, Option.bind_some,
        Option.pure_def, Option.getD_some]

end Relata.Language
