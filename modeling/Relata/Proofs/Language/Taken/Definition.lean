import Relata.Proofs.Language.Definition
import Relata.Proofs.Language.Taken.Expression

/-!
# What the readers of definitions take

Relations, conditions and headers are taken as texts of what is read. The braces of a condition are
counted: what stands before the brace that closes a block has its own braces balanced.

## Main results

* `relationDefinition_split` — what a relation takes.
* `closingBrace_split`, `bracedBlock_split` — a block is taken up to the brace that closes it.
* `conditionDefinition_split` — what a condition takes.
* `modelHeader_split` — what a header takes.
-/

namespace Relata.Language

/-! ### Layout in front of something -/

/-- In front of something, what layout takes is layout: a comment that the text ends in has nothing
behind it. -/
theorem skipsOnly_layout : SkipsOnly Layout layout := by
  intro s h
  obtain ⟨b, comment, hs, hb, hcomment⟩ := layout_split s
  rw [hcomment.eq_nil h, List.append_nil] at hs
  exact ⟨b, hb, hs⟩

/-! ### Relations -/

/-- A relation takes the blanks before it and one of its texts. -/
theorem relationDefinition_split {s rest : List Char} {r : Relation}
    (h : relationDefinition s = some (r, rest)) :
    ∃ b t, s = b ++ t ++ rest ∧ Blanks b ∧ WrittenRelation r t ∧ Apart t rest := by
  simp only [relationDefinition, Option.bind_eq_bind, Option.bind_eq_some_iff] at h
  obtain ⟨s₁, h₁, s₂, h₂, ⟨n, s₃⟩, h₃, s₄, h₄, ⟨e, s₅⟩, h₅, h⟩ := h
  obtain ⟨rfl, rfl⟩ : ⟨n, e⟩ = r ∧ s₅ = rest := by simpa using h
  obtain ⟨b, hb, rfl⟩ := expect_spaces_split h₁
  obtain ⟨b₁, hb₁, rfl⟩ := spaces₁_split h₂
  obtain ⟨rfl, hn, -⟩ := identifier_split h₃
  obtain ⟨b₂, hb₂, rfl⟩ := expect_spaces_split h₄
  obtain ⟨b₃, hb₃, hs₄⟩ := spaces_split s₄
  obtain ⟨t, hs₅, ht, hapart⟩ := takes_expression.split h₅
  refine ⟨b, _, ?_, hb, .mk hb₁ hn hb₂ hb₃ ht, (hapart trivial).behind ht.solid.ne_nil _⟩
  rw [hs₄, hs₅]
  simp only [List.append_assoc]

/-! ### Parameters -/

theorem typeArgument_split {s argument rest : List Char}
    (h : typeArgument s = some (argument, rest)) :
    s = argument ++ rest ∧ ∃ inside, inside ≠ [] ∧ '>' ∉ inside ∧
      argument = '<' :: (inside ++ ['>']) := by
  simp only [typeArgument, Option.bind_eq_bind, Option.bind_eq_some_iff] at h
  obtain ⟨s₁, h₁, ⟨inside, s₂⟩, h₂, s₃, h₃, h⟩ := h
  obtain ⟨rfl, rfl⟩ : '<' :: inside ++ ['>'] = argument ∧ s₃ = rest := by simpa using h
  obtain rfl := expect_split h₁
  obtain ⟨rfl, hne, hinside, -⟩ := chars₁_split h₂
  obtain rfl := expect_split h₃
  refine ⟨by simp, inside, hne, ?_, rfl⟩
  intro hclose
  have := hinside '>' hclose
  simp at this

theorem parameterType_split {s rest : List Char} {type : String}
    (h : parameterType s = some (type, rest)) : s = type.toList ++ rest ∧ IsParameterType type := by
  simp only [parameterType, Option.bind_eq_bind, Option.bind_eq_some_iff] at h
  obtain ⟨⟨word, s₁⟩, hword, h⟩ := h
  obtain ⟨rfl, hne, hchars, -⟩ := chars₁_split hword
  rw [optionally] at h
  cases hargument : typeArgument s₁ with
  | none =>
    rw [hargument] at h
    obtain ⟨rfl, rfl⟩ : String.ofList word = type ∧ s₁ = rest := by simpa using h
    rw [String.toList_ofList]
    exact ⟨rfl, word, [], by simp, hne, hchars, Or.inl rfl⟩
  | some r =>
    obtain ⟨argument, s₂⟩ := r
    rw [hargument] at h
    obtain ⟨rfl, rfl⟩ : String.ofList (word ++ argument) = type ∧ s₂ = rest := by
      simpa using h
    obtain ⟨rfl, hinside⟩ := typeArgument_split hargument
    rw [String.toList_ofList]
    exact ⟨by simp, word, argument, by simp, hne, hchars, Or.inr hinside⟩

theorem takes_parameter : Takes WrittenParameter EndsWord conditionParameter where
  split := by
    intro s p rest h
    simp only [conditionParameter, Option.bind_eq_bind, Option.bind_eq_some_iff] at h
    obtain ⟨⟨n, s₁⟩, h₁, s₂, h₂, ⟨type, s₃⟩, h₃, h⟩ := h
    obtain ⟨rfl, rfl⟩ : (n, type) = p ∧ s₃ = rest := by simpa using h
    obtain ⟨rfl, hn, -⟩ := identifier_split h₁
    obtain ⟨b₁, hb₁, rfl⟩ := expect_spaces_split h₂
    obtain ⟨b₂, hb₂, hs₂⟩ := spaces_split s₂
    obtain ⟨hs₃, htype⟩ := parameterType_split h₃
    refine ⟨_, ?_, .mk hn hb₁ hb₂ htype, fun hf => apart_of_head fun d hd => (hf d hd).1⟩
    rw [hs₂, hs₃]
    simp only [List.append_assoc]
  ne_nil h := h.solid.ne_nil

/-- Parameters take one of their texts, which ends in a bracket. -/
theorem parameters_split {s rest : List Char} {ps : List (String × String)}
    (h : parameters s = some (ps, rest)) : ∃ t, s = t ++ rest ∧ WrittenParameters ps t := by
  simp only [parameters, Option.bind_eq_bind, Option.bind_eq_some_iff] at h
  obtain ⟨s₁, h₁, s₂, h₂, h⟩ := h
  obtain rfl := expect_split h₁
  rw [optionally] at h h₂
  cases hps : separated layoutComma conditionParameter (layout s₁) with
  | none =>
    simp only [hps, layout_layout] at h h₂
    obtain ⟨rfl, rfl⟩ : [] = ps ∧ s₂ = rest := by simpa using h
    obtain ⟨b, hb, rfl⟩ := skipsOnly_layout.expect_split h₂
    exact ⟨_, by simp, .empty hb⟩
  | some r =>
    obtain ⟨ps', s₃⟩ := r
    simp only [hps] at h h₂
    obtain ⟨rfl, rfl⟩ : ps' = ps ∧ s₂ = rest := by simpa using h
    obtain ⟨b₂, hb₂, rfl⟩ := skipsOnly_layout.expect_split h₂
    obtain ⟨p, ps, t, u, rfl, hs, ht, htu, hu, -⟩ := takes_parameter.separated_split
      skipsOnly_layout.commaBetween_split (readsList_parameters 0).follows_sep hps
    obtain ⟨b₁, hb₁, hs₁⟩ := skipsOnly_layout (s := s₁) (by
      rw [hs]
      simp [takes_parameter.ne_nil ht])
    refine ⟨['('] ++ b₁ ++ t ++ u ++ b₂ ++ [')'], ?_, .list hb₁ ht htu hu hb₂⟩
    rw [hs₁, hs]
    simp

/-! ### Blocks -/

theorem BalancedWithin.cons {depth : Nat} {c : Char} {body : List Char}
    (hle : ∀ p, p <+: body → (c :: p).count '\x7d' ≤ depth + (c :: p).count '\x7b')
    (hall : (c :: body).count '\x7d' = depth + (c :: body).count '\x7b') :
    BalancedWithin depth (c :: body) := by
  refine ⟨fun p hp => ?_, hall⟩
  rcases List.prefix_cons_iff.mp hp with rfl | ⟨q, rfl, hq⟩
  · simp
  · exact hle q hq

theorem BalancedWithin.cons_open {depth : Nat} {body : List Char}
    (h : BalancedWithin (depth + 1) body) : BalancedWithin depth ('\x7b' :: body) := by
  obtain ⟨hle, hall⟩ := h
  refine .cons (fun p hp => ?_) ?_
  all_goals
    simp only [List.count_cons_self, List.count_cons_of_ne, ne_eq, Char.reduceEq,
      not_false_eq_true]
  · have := hle p hp
    omega
  · omega

theorem BalancedWithin.cons_close {depth : Nat} {body : List Char}
    (h : BalancedWithin depth body) : BalancedWithin (depth + 1) ('\x7d' :: body) := by
  obtain ⟨hle, hall⟩ := h
  refine .cons (fun p hp => ?_) ?_
  all_goals
    simp only [List.count_cons_self, List.count_cons_of_ne, ne_eq, Char.reduceEq,
      not_false_eq_true]
  · have := hle p hp
    omega
  · omega

/-- No other character changes how many braces are open. -/
theorem BalancedWithin.cons_other {depth : Nat} {c : Char} {body : List Char} (hopen : c ≠ '\x7b')
    (hclose : c ≠ '\x7d') (h : BalancedWithin depth body) : BalancedWithin depth (c :: body) := by
  obtain ⟨hle, hall⟩ := h
  refine .cons (fun p hp => ?_) ?_
  all_goals simp only [List.count_cons_of_ne hopen, List.count_cons_of_ne hclose]
  · exact hle p hp
  · exact hall

/-- A block is taken up to the brace that closes it. -/
theorem closingBrace_split {s body rest : List Char} {depth : Nat}
    (h : closingBrace depth s = some (body, rest)) :
    s = body ++ '\x7d' :: rest ∧ BalancedWithin depth body := by
  induction s generalizing depth body with
  | nil => simp [closingBrace] at h
  | cons c s ih =>
    by_cases hopen : c = '\x7b'
    · subst hopen
      rw [closingBrace_open, Option.map_eq_some_iff] at h
      obtain ⟨⟨b, r⟩, hb, h⟩ := h
      obtain ⟨rfl, rfl⟩ := Prod.mk.inj h
      obtain ⟨rfl, hbody⟩ := ih hb
      exact ⟨rfl, hbody.cons_open⟩
    by_cases hclose : c = '\x7d'
    · subst hclose
      cases depth with
      | zero =>
        obtain ⟨rfl, rfl⟩ : [] = body ∧ s = rest := by simpa [closingBrace] using h
        exact ⟨rfl, by simp [BalancedWithin]⟩
      | succ depth =>
        rw [closingBrace_close, Option.map_eq_some_iff] at h
        obtain ⟨⟨b, r⟩, hb, h⟩ := h
        obtain ⟨rfl, rfl⟩ := Prod.mk.inj h
        obtain ⟨rfl, hbody⟩ := ih hb
        exact ⟨rfl, hbody.cons_close⟩
    · rw [closingBrace_other depth hopen hclose, Option.map_eq_some_iff] at h
      obtain ⟨⟨b, r⟩, hb, h⟩ := h
      obtain ⟨rfl, rfl⟩ := Prod.mk.inj h
      obtain ⟨rfl, hbody⟩ := ih hb
      exact ⟨rfl, hbody.cons_other hopen hclose⟩

/-- White space around a text does not count for its braces. -/
theorem Balanced.of_pad {pad₁ body pad₂ : List Char} (h : Balanced (pad₁ ++ body ++ pad₂))
    (h₁ : ∀ c ∈ pad₁, Text.isBlank c = true) (h₂ : ∀ c ∈ pad₂, Text.isBlank c = true) :
    Balanced body := by
  obtain ⟨hle, hall⟩ := h
  have hopen : Text.isBlank '\x7b' = false := by decide
  have hclose : Text.isBlank '\x7d' = false := by decide
  refine ⟨fun p hp => ?_, ?_⟩
  · have hpad : pad₁ ++ p <+: pad₁ ++ body ++ pad₂ := by
      rw [List.append_assoc]
      exact (List.prefix_append_right_inj pad₁).mpr (hp.trans (List.prefix_append body pad₂))
    have := hle _ hpad
    simp only [List.count_append, count_eq_zero_of_blank h₁ hopen,
      count_eq_zero_of_blank h₁ hclose] at this
    omega
  · simp only [List.count_append, count_eq_zero_of_blank h₁ hopen, count_eq_zero_of_blank h₂ hopen,
      count_eq_zero_of_blank h₁ hclose, count_eq_zero_of_blank h₂ hclose] at hall
    omega

/-- A block takes the expression of a condition in braces. -/
theorem bracedBlock_split {s rest : List Char} {body : String}
    (h : bracedBlock s = some (body, rest)) :
    ∃ pad₁ pad₂, s = ['\x7b'] ++ pad₁ ++ body.toList ++ pad₂ ++ ['\x7d'] ++ rest ∧
      IsConditionBody body ∧ (∀ c ∈ pad₁, Text.isBlank c = true) ∧
      (∀ c ∈ pad₂, Text.isBlank c = true) := by
  simp only [bracedBlock, Option.bind_eq_bind, Option.bind_eq_some_iff] at h
  obtain ⟨s₁, h₁, ⟨inside, r⟩, h₂, h⟩ := h
  obtain ⟨rfl, rfl⟩ : String.ofList (Text.trim inside) = body ∧ r = rest := by simpa using h
  obtain rfl := expect_split h₁
  obtain ⟨rfl, hbalanced⟩ := closingBrace_split h₂
  obtain ⟨pad₁, pad₂, hinside, hpad₁, hpad₂⟩ := Text.trim_split inside
  have hbody : Balanced (Text.trim inside) := by
    rw [balancedWithin_zero, hinside] at hbalanced
    exact hbalanced.of_pad hpad₁ hpad₂
  refine ⟨pad₁, pad₂, ?_, ⟨?_, ?_⟩, hpad₁, hpad₂⟩
  · rw [String.toList_ofList]
    conv_lhs => rw [hinside]
    simp only [List.append_assoc, List.cons_append, List.nil_append]
  · rw [String.toList_ofList, Text.trim_trim]
  · rwa [String.toList_ofList]

/-! ### Conditions -/

/-- A condition takes one of its texts. -/
theorem conditionDefinition_split {s rest : List Char} {c : Condition}
    (h : conditionDefinition s = some (c, rest)) :
    ∃ t, s = t ++ rest ∧ WrittenCondition c t := by
  simp only [conditionDefinition, Option.bind_eq_bind, Option.bind_eq_some_iff] at h
  obtain ⟨s₁, h₁, s₂, h₂, ⟨n, s₃⟩, h₃, ⟨ps, s₄⟩, h₄, ⟨body, s₅⟩, h₅, h⟩ := h
  obtain ⟨rfl, rfl⟩ : ⟨n, body, ps⟩ = c ∧ s₅ = rest := by simpa using h
  obtain rfl := expect_split h₁
  obtain ⟨b₁, hb₁, rfl⟩ := spaces₁_split h₂
  obtain ⟨rfl, hn, -⟩ := identifier_split h₃
  obtain ⟨b₂, hb₂, hs₃⟩ := spaces_split s₃
  obtain ⟨t, ht, hparameters⟩ := parameters_split h₄
  obtain ⟨pad₁, pad₂, hblock, hbody, hpad₁, hpad₂⟩ := bracedBlock_split h₅
  obtain ⟨b₃, hb₃, hs₄⟩ := skipsOnly_layout (s := s₄) (by simp [hblock])
  refine ⟨_, ?_, .mk hb₁ hn hb₂ hparameters hb₃ hbody hpad₁ hpad₂⟩
  rw [hs₃, ht, hs₄, hblock]
  simp only [List.append_assoc]

/-! ### Headers -/

/-- A header takes one of its texts, and no character of a version is left behind it. -/
theorem modelHeader_split {s rest : List Char} {v : String} (h : modelHeader s = some (v, rest)) :
    ∃ b₁ b₂, s = ['m', 'o', 'd', 'e', 'l'] ++ b₁ ++ ['s', 'c', 'h', 'e', 'm', 'a'] ++ b₂ ++
        v.toList ++ rest ∧ Layout b₁ ∧ Gap b₂ ∧ IsVersion v ∧
      ∀ c ∈ rest.head?, (c.isDigit || c = '.') = false := by
  simp only [modelHeader, Option.bind_eq_bind, Option.bind_eq_some_iff] at h
  obtain ⟨s₁, h₁, s₂, h₂, s₃, h₃, ⟨version, s₄⟩, h₄, h⟩ := h
  obtain ⟨rfl, rfl⟩ : String.ofList version = v ∧ s₄ = rest := by simpa using h
  obtain rfl := expect_split h₁
  obtain ⟨b₁, hb₁, rfl⟩ := skipsOnly_layout.expect_split h₂
  obtain ⟨b₂, hb₂, rfl⟩ := spaces₁_split h₃
  obtain ⟨rfl, hne, hchars, hhead⟩ := chars₁_split h₄
  refine ⟨b₁, b₂, ?_, hb₁, hb₂, ⟨?_, ?_⟩, hhead⟩
  · rw [String.toList_ofList]
    simp only [List.append_assoc]
  · rwa [String.toList_ofList]
  · rwa [String.toList_ofList]

end Relata.Language
