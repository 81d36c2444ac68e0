import Relata.Proofs.Language.Taken.Definition

/-!
# Blocks in braces

A block ends at the brace that closes its first one, whatever stands in it and behind it. The scan
for this brace counts the open ones: it starts with one of them and goes on as long as the count is
not zero, so the count is positive wherever the scan goes on, and no brace takes it below zero.

## Main definitions

* `countBrace` — the count behind a character.
* `Scanned` — what a scan has passed, with the count behind it.

## Main results

* `Scanned.pos` — the count is positive.
* `Scanned.closingBrace_append` — a scan goes on from the count alone.
* `exists_scanned_iff` — how far a scan goes.
* `bracedBlock_eq_some`, `bracedBlock_eq_none` — when a block is read, and when it is not.
* `bracedBlock_ends` — **a block ends at the brace that closes its first one.**
-/

namespace Relata.Language

/-! ### Counting braces -/

/-- The number of open braces behind a character, where `count` were open before it. As an integer
it may go below zero. -/
def countBrace (count : Int) (c : Char) : Int :=
  if c = '\x7b' then count + 1 else if c = '\x7d' then count - 1 else count

/-- A scan that starts behind the first brace has passed a text, and `count` braces are open behind
it. The count has not been zero yet. -/
inductive Scanned : List Char → Int → Prop
  | start : Scanned [] 1
  | step {p : List Char} {count : Int} {c : Char} :
      Scanned p count → countBrace count c ≠ 0 → Scanned (p ++ [c]) (countBrace count c)

@[simp] theorem countBrace_open (count : Int) : countBrace count '\x7b' = count + 1 := rfl

@[simp] theorem countBrace_close (count : Int) : countBrace count '\x7d' = count - 1 := rfl

theorem countBrace_other {c : Char} (hopen : c ≠ '\x7b') (hclose : c ≠ '\x7d') (count : Int) :
    countBrace count c = count := by
  rw [countBrace, if_neg hopen, if_neg hclose]

/-- A character counts for the braces that it opens or closes. -/
theorem countBrace_eq (count : Int) (c : Char) :
    countBrace count c = count + [c].count '\x7b' - [c].count '\x7d' := by
  by_cases hopen : c = '\x7b'
  · subst hopen
    simp
  by_cases hclose : c = '\x7d'
  · subst hclose
    simp
  · simp [countBrace_other hopen hclose, hopen, hclose]

section Counting

variable {p s : List Char} {count : Int} {c : Char}

theorem countBrace_nonneg (h : 0 < count) (c : Char) : 0 ≤ countBrace count c := by
  unfold countBrace
  split
  · omega
  split
  · omega
  · omega

/-- Where a scan goes on a brace is open. -/
theorem Scanned.pos (h : Scanned p count) : 0 < count := by
  induction h with
  | start => decide
  | @step p count c _ hne ih =>
    have := countBrace_nonneg ih c
    omega

/-- The count is that of the braces that were opened and not closed, and the first one. -/
theorem Scanned.count_eq (h : Scanned p count) :
    count = 1 + p.count '\x7b' - p.count '\x7d' := by
  induction h with
  | start => rfl
  | @step p count c _ _ ih =>
    rw [countBrace_eq, List.count_append, List.count_append, ih]
    omega

/-- A scan passes a character with the count behind it, unless the count is zero there. -/
theorem closingBrace_cons (h : 0 < count) (hc : 0 < countBrace count c) (s : List Char) :
    closingBrace (count - 1).toNat (c :: s) =
      (closingBrace (countBrace count c - 1).toNat s).map fun r => (c :: r.1, r.2) := by
  by_cases hopen : c = '\x7b'
  · subst hopen
    have hdepth : (countBrace count '\x7b' - 1).toNat = (count - 1).toNat + 1 := by
      rw [countBrace_open]
      omega
    rw [closingBrace_open, hdepth]
  by_cases hclose : c = '\x7d'
  · subst hclose
    have hdepth : (count - 1).toNat = (countBrace count '\x7d' - 1).toNat + 1 := by
      rw [countBrace_close] at hc ⊢
      omega
    rw [hdepth, closingBrace_close]
  · rw [closingBrace_other _ hopen hclose, countBrace_other hopen hclose]

/-- The scan ends where the count is zero. -/
theorem closingBrace_eq_of_countBrace (h : 0 < count) (hc : countBrace count c = 0)
    (s : List Char) : closingBrace (count - 1).toNat (c :: s) = some ([], s) := by
  by_cases hopen : c = '\x7b'
  · subst hopen
    rw [countBrace_open] at hc
    omega
  by_cases hclose : c = '\x7d'
  · subst hclose
    rw [countBrace_close] at hc
    obtain rfl : count = 1 := by omega
    simp [closingBrace]
  · rw [countBrace_other hopen hclose] at hc
    omega

/-- **A scan goes on from the count alone**: what it has passed stands in front of what it gives. -/
theorem Scanned.closingBrace_append (h : Scanned p count) (s : List Char) :
    closingBrace 0 (p ++ s) =
      (closingBrace (count - 1).toNat s).map fun r => (p ++ r.1, r.2) := by
  induction h generalizing s with
  | start => simp
  | @step p count c hp hne ih =>
    have hc : 0 < countBrace count c := by
      have := countBrace_nonneg hp.pos c
      omega
    rw [List.append_assoc, List.singleton_append, ih, closingBrace_cons hp.pos hc, Option.map_map]
    simp [Function.comp_def]

/-- A scan has passed every prefix of what it has passed. -/
theorem Scanned.exists_of_prefix (h : Scanned p count) {q : List Char} (hq : q <+: p) :
    ∃ count', Scanned q count' := by
  induction h with
  | start =>
    obtain rfl := List.prefix_nil.mp hq
    exact ⟨1, .start⟩
  | @step p count c hp hne ih =>
    rcases List.prefix_concat_iff.mp hq with rfl | hq
    · exact ⟨_, .step hp hne⟩
    · exact ih hq

/-- **How far a scan goes**: up to where more braces are closed than opened. -/
theorem exists_scanned_iff :
    (∃ count, Scanned p count) ↔ ∀ q, q <+: p → q.count '\x7d' ≤ q.count '\x7b' := by
  constructor
  · rintro ⟨count, h⟩ q hq
    obtain ⟨count', hscanned⟩ := h.exists_of_prefix hq
    have hpos := hscanned.pos
    have hcount := hscanned.count_eq
    omega
  · intro h
    induction p using List.reverseRecOn with
    | nil => exact ⟨1, .start⟩
    | append_singleton p c ih =>
      obtain ⟨count, hp⟩ := ih fun q hq => h q (hq.trans (List.prefix_append p [c]))
      refine ⟨_, .step hp fun hzero => ?_⟩
      -- the last character would close one brace more than are open
      have hle := h (p ++ [c]) (List.prefix_refl _)
      rw [List.count_append, List.count_append] at hle
      rw [countBrace_eq, hp.count_eq] at hzero
      omega

end Counting

/-! ### Blocks -/

/-- A scan that passes all of a text finds no end in it. -/
theorem closingBrace_eq_none {s : List Char} :
    closingBrace 0 s = none ↔ ∀ q, q <+: s → q.count '\x7d' ≤ q.count '\x7b' := by
  rw [← exists_scanned_iff]
  constructor
  · intro hnone
    -- each prefix is passed, since the scan would end at its last character otherwise
    have key : ∀ p t, p ++ t = s → ∃ count, Scanned p count := by
      intro p
      induction p using List.reverseRecOn with
      | nil => exact fun _ _ => ⟨1, .start⟩
      | append_singleton p c ih =>
        intro t hs
        rw [List.append_assoc, List.singleton_append] at hs
        obtain ⟨count, hp⟩ := ih (c :: t) hs
        refine ⟨_, .step hp fun hzero => ?_⟩
        rw [← hs, hp.closingBrace_append, closingBrace_eq_of_countBrace hp.pos hzero] at hnone
        contradiction
    exact key s [] (List.append_nil s)
  · rintro ⟨count, h⟩
    have hend := h.closingBrace_append []
    rwa [List.append_nil, closingBrace, Option.map_none] at hend

/-- **A block is read** up to the brace that closes its first one. -/
theorem bracedBlock_eq_some {s rest : List Char} {body : String} :
    bracedBlock s = some (body, rest) ↔
      ∃ b, Balanced b ∧ s = '\x7b' :: (b ++ '\x7d' :: rest) ∧
        body = String.ofList (Text.trim b) := by
  constructor
  · intro h
    simp only [bracedBlock, Option.bind_eq_bind, Option.bind_eq_some_iff] at h
    obtain ⟨s₁, h₁, ⟨b, r⟩, h₂, h⟩ := h
    obtain ⟨rfl, rfl⟩ : String.ofList (Text.trim b) = body ∧ r = rest := by simpa using h
    obtain ⟨rfl, hb⟩ := closingBrace_split h₂
    exact ⟨b, balancedWithin_zero.mp hb, expect_split h₁, rfl⟩
  · rintro ⟨b, hb, rfl, rfl⟩
    rw [bracedBlock, expect_singleton, Option.bind_eq_bind, Option.bind_some,
      closingBrace_append (balancedWithin_zero.mpr hb)]
    rfl

/-- **A block is not read** if it does not start with a brace, or if no prefix closes this brace. -/
theorem bracedBlock_eq_none {s : List Char} :
    bracedBlock s = none ↔ s.head? ≠ some '\x7b' ∨
      ∀ p, p <+: s → p ≠ [] → p.count '\x7d' ≠ p.count '\x7b' := by
  cases s with
  | nil => exact iff_of_true rfl (Or.inl (by simp))
  | cons c s =>
    by_cases hc : c = '\x7b'
    · subst hc
      have hscan : bracedBlock ('\x7b' :: s) = none ↔ closingBrace 0 s = none := by
        rw [bracedBlock, expect_singleton, Option.bind_eq_bind, Option.bind_some]
        cases closingBrace 0 s with
        | none => exact iff_of_true rfl rfl
        | some r => exact iff_of_false (Option.some_ne_none _) (Option.some_ne_none r)
      rw [hscan]
      constructor
      · intro hnone
        -- behind the first brace no prefix closes more than it opens, so the first one stays open
        rw [closingBrace_eq_none] at hnone
        refine Or.inr fun p hp hne => ?_
        rcases List.prefix_cons_iff.mp hp with rfl | ⟨q, rfl, hq⟩
        · contradiction
        · have hle := hnone q hq
          simp only [List.count_cons_self, List.count_cons_of_ne, ne_eq, Char.reduceEq,
            not_false_eq_true]
          omega
      · rintro (hhead | hopen)
        · exact absurd rfl hhead
        · -- what is read with its braces would be such a prefix
          rw [Option.eq_none_iff_forall_ne_some]
          rintro ⟨b, rest⟩ hsome
          obtain ⟨rfl, hb⟩ := closingBrace_split hsome
          refine hopen ('\x7b' :: (b ++ ['\x7d'])) ⟨rest, by simp⟩ (by simp) ?_
          have hall := hb.2
          simp only [List.count_cons_self, List.count_cons_of_ne, List.count_append, List.count_nil,
            ne_eq, Char.reduceEq, not_false_eq_true]
          omega
    · refine iff_of_true ?_ (Or.inl (by simpa using hc))
      rw [bracedBlock, expect_eq_none (by simpa using hc)]
      rfl

/-- **A block ends at the brace that closes its first one.** Text with balanced braces between two
braces is read as the text without its outer white space, whatever stands behind, and nothing else
is read: a text gives no block if and only if it does not start with a brace or none of its prefixes
closes this brace. The scan for the end passes exactly the texts none of whose prefixes closes more
braces than it opens. Wherever it goes on the count is positive, so no character takes it below
zero, and what the scan gives depends on the count and on what follows alone. -/
theorem bracedBlock_ends :
    (∀ b rest, Balanced b → bracedBlock ('\x7b' :: (b ++ '\x7d' :: rest)) =
      some (String.ofList (Text.trim b), rest)) ∧
    (∀ s body rest, bracedBlock s = some (body, rest) → ∃ b, Balanced b ∧
      s = '\x7b' :: (b ++ '\x7d' :: rest) ∧ body = String.ofList (Text.trim b)) ∧
    (∀ s, bracedBlock s = none ↔ s.head? ≠ some '\x7b' ∨
      ∀ p, p <+: s → p ≠ [] → p.count '\x7d' ≠ p.count '\x7b') ∧
    (∀ p, (∃ count, Scanned p count) ↔ ∀ q, q <+: p → q.count '\x7d' ≤ q.count '\x7b') ∧
    ∀ p count, Scanned p count → 0 < count ∧ (∀ c, 0 ≤ countBrace count c) ∧
      ∀ s, closingBrace 0 (p ++ s) =
        (closingBrace (count - 1).toNat s).map fun r => (p ++ r.1, r.2) :=
  ⟨fun b _ hb => bracedBlock_eq_some.mpr ⟨b, hb, rfl, rfl⟩, fun _ _ _ => bracedBlock_eq_some.mp,
    fun _ => bracedBlock_eq_none, fun _ => exists_scanned_iff,
    fun _ _ h => ⟨h.pos, countBrace_nonneg h.pos, h.closingBrace_append⟩⟩

end Relata.Language
