import Relata.Language.Definition
import Relata.Proofs.Character

/-!
# Lexemes read back

What stands between lexemes, what a name is, and how each of the readers of lexemes takes exactly
the text it stands for off a longer one. A reader of a run of characters takes all of the run there
is, so each statement about a name says what must not follow it.

## Main definitions

* `Blanks`, `Gap`, `Layout` — what may stand between lexemes.
* `IsName` — the names of the model language.
* `Apart` — two texts that no name runs across.
* `Stops`, `NextIn` — what follows a text, behind blanks and behind layout.

## Main results

* `Layout.layout_append` — layout is skipped as a whole.
* `identifier_append` — a name is read back.
-/

namespace Relata.Language

/-! ### Between lexemes -/

/-- Blanks inside a line. -/
def Blanks (b : List Char) : Prop := ∀ c ∈ b, isSpace c = true

/-- Blanks inside a line, at least one. -/
def Gap (b : List Char) : Prop := Blanks b ∧ b ≠ []

instance (b : List Char) : Decidable (Blanks b) :=
  inferInstanceAs (Decidable (∀ c ∈ b, isSpace c = true))

instance (b : List Char) : Decidable (Gap b) :=
  inferInstanceAs (Decidable (Blanks b ∧ b ≠ []))

/-- Blanks, line ends and comments. A comment runs up to the end of its line. -/
inductive Layout : List Char → Prop
  | nil : Layout []
  | spacing {c : Char} {b : List Char} : isSpacing c = true → Layout b → Layout (c :: b)
  | comment {body : List Char} {e : Char} {b : List Char} :
      (∀ c ∈ body, isLineEnd c = false) → isLineEnd e = true → Layout b →
      Layout ('#' :: (body ++ e :: b))

theorem isSpacing_of_isSpace {c : Char} (h : isSpace c = true) : isSpacing c = true := by
  simp only [isSpace, isSpacing, Bool.or_eq_true, decide_eq_true_eq] at h ⊢
  exact Or.inl (Or.inl h)

theorem spaces_append {b : List Char} (hb : Blanks b) (s : List Char) :
    spaces (b ++ s) = spaces s := by
  induction b with
  | nil => rfl
  | cons c b ih =>
    have hc : isSpace c = true := hb c List.mem_cons_self
    have hb' : Blanks b := fun d hd => hb d (List.mem_cons_of_mem c hd)
    rw [List.cons_append, spaces, List.dropWhile_cons_of_pos hc]
    exact ih hb'

theorem spaces_eq_self {s : List Char} (h : ∀ c ∈ s.head?, isSpace c = false) : spaces s = s := by
  cases s with
  | nil => rfl
  | cons c s => exact List.dropWhile_cons_of_neg (by simp [h c rfl])

theorem spaces₁_append {b : List Char} (hb : Gap b) (s : List Char) :
    spaces₁ (b ++ s) = some (spaces s) := by
  obtain ⟨hb, hne⟩ := hb
  cases b with
  | nil => exact absurd rfl hne
  | cons c b =>
    have hc : isSpace c = true := hb c List.mem_cons_self
    have hb' : Blanks b := fun d hd => hb d (List.mem_cons_of_mem c hd)
    rw [List.cons_append, spaces₁, if_pos hc, spaces_append hb']

/-- Behind the blanks of `spaces₁` stands what stands behind those of `spaces`. -/
theorem spaces₁_eq_some {s t : List Char} (h : spaces₁ s = some t) : t = spaces s := by
  cases s with
  | nil => simp [spaces₁] at h
  | cons c s =>
    rw [spaces₁] at h
    split at h
    · next hc =>
      simp only [Option.some.injEq] at h
      rw [← h, spaces, spaces, List.dropWhile_cons_of_pos hc]
    · simp at h

theorem layout_hash (s : List Char) :
    layout ('#' :: s) = layout (s.dropWhile (!isLineEnd ·)) :=
  layout_comment rfl

/-- Layout is skipped as a whole. -/
theorem Layout.layout_append {b : List Char} (hb : Layout b) (s : List Char) :
    layout (b ++ s) = layout s := by
  induction hb with
  | nil => rfl
  | spacing hc _ ih =>
    rw [List.cons_append, layout, skipLayout, if_pos hc]
    exact ih
  | @comment body e b hbody he _ ih =>
    have hdrop : (body ++ e :: (b ++ s)).dropWhile (!isLineEnd ·) = e :: (b ++ s) := by
      rw [List.dropWhile_append_of_pos (by simpa using hbody),
        List.dropWhile_cons_of_neg (by simp [he])]
    -- the line end that ends the comment is layout itself
    rw [List.cons_append, List.append_assoc, List.cons_append, layout_hash, hdrop, layout,
      skipLayout, if_pos (isSpacing_of_isLineEnd he)]
    exact ih

theorem layout_of_isSpacing {b : List Char} (h : ∀ c ∈ b, isSpacing c = true) : Layout b := by
  induction b with
  | nil => exact .nil
  | cons c b ih =>
    exact .spacing (h c List.mem_cons_self) (ih fun d hd => h d (List.mem_cons_of_mem c hd))

theorem Blanks.layout {b : List Char} (hb : Blanks b) : Layout b :=
  layout_of_isSpacing fun c hc => isSpacing_of_isSpace (hb c hc)

/-- A text that does not start with layout is left as it is. -/
theorem layout_eq_self {s : List Char}
    (h : ∀ c ∈ s.head?, isSpacing c = false ∧ c ≠ '#') : layout s = s := by
  cases s with
  | nil => rfl
  | cons c s =>
    obtain ⟨hc, hne⟩ := h c rfl
    rw [layout, skipLayout, if_neg (by simp [hc]), if_neg hne]

/-- A comment that the text ends in. -/
theorem layout_comment_end {body : List Char} (h : ∀ c ∈ body, isLineEnd c = false) :
    layout ('#' :: body) = [] := by
  have hdrop : (body ++ []).dropWhile (!isLineEnd ·) = [] := by
    rw [List.dropWhile_append_of_pos (by simpa using h), List.dropWhile_nil]
  rw [List.append_nil] at hdrop
  rw [layout_hash, hdrop, layout_nil]

private theorem length_skipLayout_le (inComment : Bool) (s : List Char) :
    (skipLayout inComment s).length ≤ s.length := by
  induction s generalizing inComment with
  | nil => simp [skipLayout]
  | cons c s ih =>
    have hf := ih false
    have ht := ih true
    have hl := ih (!isLineEnd c)
    cases inComment with
    | true =>
      rw [skipLayout, List.length_cons]
      omega
    | false =>
      rw [skipLayout]
      split
      · rw [List.length_cons]; omega
      · split
        · rw [List.length_cons]; omega
        · exact Nat.le_refl _

theorem length_layout_le (s : List Char) : (layout s).length ≤ s.length :=
  length_skipLayout_le false s

/-- Skipping blanks first changes nothing. -/
theorem layout_spaces (s : List Char) : layout (spaces s) = layout s := by
  induction s with
  | nil => rfl
  | cons c s ih =>
    by_cases hc : isSpace c = true
    · rw [spaces, List.dropWhile_cons_of_pos hc, ← spaces, ih, layout, layout, skipLayout,
        if_pos (isSpacing_of_isSpace hc)]
    · rw [spaces, List.dropWhile_cons_of_neg hc]

/-! ### Fixed texts -/

theorem expect_append (word s : List Char) : expect word (word ++ s) = some s := by
  induction word with
  | nil => rfl
  | cons w word ih => rw [List.cons_append, expect, if_pos rfl, ih]

theorem expect_singleton (c : Char) (s : List Char) : expect [c] (c :: s) = some s :=
  expect_append [c] s

theorem expect_eq_none {w : Char} {word s : List Char} (h : ∀ c ∈ s.head?, c ≠ w) :
    expect (w :: word) s = none := by
  cases s with
  | nil => rfl
  | cons c s => rw [expect, if_neg (h c rfl)]

/-! ### Runs of characters -/

theorem chars₁_append {p : Char → Bool} {cs rest : List Char} (hne : cs ≠ [])
    (hcs : ∀ c ∈ cs, p c = true) (hrest : ∀ c ∈ rest.head?, p c = false) :
    chars₁ p (cs ++ rest) = some (cs, rest) := by
  have htake : (cs ++ rest).takeWhile p = cs := by
    rw [List.takeWhile_append_of_pos hcs]
    cases rest with
    | nil => simp
    | cons c rest => rw [List.takeWhile_cons_of_neg (by simp [hrest c rfl]), List.append_nil]
  have hdrop : (cs ++ rest).dropWhile p = rest := by
    rw [List.dropWhile_append_of_pos hcs]
    cases rest with
    | nil => rfl
    | cons c rest => exact List.dropWhile_cons_of_neg (by simp [hrest c rfl])
  unfold chars₁
  rw [htake, hdrop]
  cases cs with
  | nil => exact absurd rfl hne
  | cons c cs => rfl

theorem chars₁_eq_none {p : Char → Bool} {s : List Char} (h : ∀ c ∈ s.head?, p c = false) :
    chars₁ p s = none := by
  cases s with
  | nil => rfl
  | cons c s => rw [chars₁, List.takeWhile_cons_of_neg (by simp [h c rfl])]

/-! ### Names -/

/-- A name: characters of a name that do not spell a keyword. -/
structure IsName (s : String) : Prop where
  ne_nil : s.toList ≠ []
  chars : ∀ c ∈ s.toList, isNameChar c = true
  notKeyword : s ∉ keywords

instance (s : String) : Decidable (IsName s) :=
  decidable_of_iff (s.toList ≠ [] ∧ (∀ c ∈ s.toList, isNameChar c = true) ∧ s ∉ keywords)
    ⟨fun ⟨hne, hcs, hk⟩ => ⟨hne, hcs, hk⟩, fun ⟨hne, hcs, hk⟩ => ⟨hne, hcs, hk⟩⟩

/-- A name is read back if no character of a name follows. -/
theorem identifier_append {n : String} (hn : IsName n) {rest : List Char}
    (hrest : ∀ c ∈ rest.head?, isNameChar c = false) :
    identifier (n.toList ++ rest) = some (n, rest) := by
  simp [identifier, chars₁_append hn.ne_nil hn.chars hrest, hn.notKeyword]

theorem identifier_eq_none {s : List Char} (h : ∀ c ∈ s.head?, isNameChar c = false) :
    identifier s = none := by
  simp [identifier, chars₁_eq_none h]

/-- No name runs from the end of `t` into `u`. -/
def Apart (t u : List Char) : Prop :=
  ∀ c ∈ t.getLast?, isNameChar c = true → ∀ d ∈ u.head?, isNameChar d = false

instance (t u : List Char) : Decidable (Apart t u) :=
  inferInstanceAs (Decidable (∀ c ∈ t.getLast?, isNameChar c = true →
    ∀ d ∈ u.head?, isNameChar d = false))

theorem apart_of_head {t u : List Char} (h : ∀ d ∈ u.head?, isNameChar d = false) : Apart t u :=
  fun _ _ _ => h

theorem isNameChar_of_isSpace {c : Char} (h : isSpace c = true) : isNameChar c = false := by
  simp only [isSpace, Bool.or_eq_true, decide_eq_true_eq] at h
  rcases h with rfl | rfl <;> decide

/-- A gap keeps names apart. -/
theorem Gap.apart {b : List Char} (hb : Gap b) (t s : List Char) : Apart t (b ++ s) := by
  obtain ⟨hb, hne⟩ := hb
  cases b with
  | nil => exact absurd rfl hne
  | cons c b => exact apart_of_head (by simpa using isNameChar_of_isSpace (hb c List.mem_cons_self))

/-- Blanks before a character of no name keep names apart. -/
theorem Blanks.apart {b : List Char} (hb : Blanks b) {c : Char} (hc : isNameChar c = false)
    (t s : List Char) : Apart t (b ++ c :: s) := by
  cases b with
  | nil => exact apart_of_head (by simpa using hc)
  | cons d b => exact Gap.apart ⟨hb, List.cons_ne_nil d b⟩ t _

@[simp] theorem apart_nil_left (u : List Char) : Apart [] u := by simp [Apart]

@[simp] theorem apart_nil_right (t : List Char) : Apart t [] := by simp [Apart]

/-- Nothing of a name follows a text that ends in a name. -/
theorem Apart.head {t u : List Char} {n : String} (hn : IsName n) (h : Apart (t ++ n.toList) u) :
    ∀ d ∈ u.head?, isNameChar d = false := by
  -- the text ends in the last character of the name
  have hlast : (t ++ n.toList).getLast? = some (n.toList.getLast hn.ne_nil) := by
    rw [List.getLast?_append, List.getLast?_eq_some_getLast hn.ne_nil, Option.some_or]
  exact h _ hlast (hn.chars _ (List.getLast_mem hn.ne_nil))

theorem Apart.right {t u v : List Char} (h : Apart (t ++ u) v) : Apart u v := by
  cases u with
  | nil => exact apart_nil_left v
  | cons c u =>
    have hlast : (t ++ c :: u).getLast? = (c :: u).getLast? := by
      simp [List.getLast?_append, List.getLast?_cons]
    unfold Apart at h ⊢
    rwa [hlast] at h

theorem Apart.append {t u v : List Char} (hu : Apart t u) (hv : Apart (t ++ u) v) :
    Apart t (u ++ v) := by
  cases u with
  | nil => simpa using hv
  | cons c u => exact hu

/-! ### What follows -/

/-- Behind blanks none of the characters in `cs` follows. -/
def Stops (cs : List Char) (rest : List Char) : Prop := ∀ c ∈ (spaces rest).head?, c ∉ cs

/-- Behind layout only characters in `cs` follow, if any. -/
def NextIn (cs : List Char) (rest : List Char) : Prop := ∀ c ∈ (layout rest).head?, c ∈ cs

theorem Stops.mono {cs ds rest : List Char} (h : Stops ds rest) (hsub : cs ⊆ ds) : Stops cs rest :=
  fun c hc hmem => h c hc (hsub hmem)

theorem Stops.append {cs b rest : List Char} (hb : Blanks b) (h : Stops cs rest) :
    Stops cs (b ++ rest) := by
  unfold Stops
  rwa [spaces_append hb]

theorem stops_cons {cs : List Char} {c : Char} (rest : List Char) (hc : isSpace c = false)
    (h : c ∉ cs) : Stops cs (c :: rest) := by
  unfold Stops
  rw [spaces_eq_self (by simpa using hc)]
  simpa using h

theorem NextIn.append {cs b rest : List Char} (hb : Layout b) (h : NextIn cs rest) :
    NextIn cs (b ++ rest) := by
  unfold NextIn
  rwa [hb.layout_append]

theorem NextIn.mono {cs ds rest : List Char} (h : NextIn cs rest) (hsub : cs ⊆ ds) :
    NextIn ds rest :=
  fun c hc => hsub (h c hc)

/-- What follows behind blanks is layout, or it follows behind layout as well. -/
theorem NextIn.stops {cs ds rest : List Char} (h : NextIn cs rest)
    (hds : ∀ c ∈ ds, isSpacing c = false ∧ c ≠ '#' ∧ c ∉ cs) : Stops ds rest := by
  intro c hc hmem
  obtain ⟨hsp, hne, hcs⟩ := hds c hmem
  -- `c` is no layout, so it follows behind layout as well
  have hhead : ∀ d ∈ (spaces rest).head?, isSpacing d = false ∧ d ≠ '#' := by
    intro d hd
    rw [Option.mem_unique hd hc]
    exact ⟨hsp, hne⟩
  refine hcs (h c ?_)
  rwa [← layout_spaces, layout_eq_self hhead]

end Relata.Language
