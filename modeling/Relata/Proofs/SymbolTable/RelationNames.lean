import Mathlib.Data.List.Nodup
import Relata.SymbolTable

/-!
# Every relation name once

The relation names of a model are those of its types, one type behind the other, without those that
have occurred before. A name stands where it occurs first, so what comes later in the model adds to
the end of the list only.

## Main definitions

* `SymbolTable.firstPlace` — where a relation name occurs first.
* `SymbolTable.IsOrderedUnion` — every relation name once, in the order of the first places.

## Main results

* `mem_freshNames`, `nodup_freshNames` — which members of a list are kept.
* `idxOf_freshNames_lt` — they keep their order.
* `freshNames_append` — more names add to the end.
* `SymbolTable.isOrderedUnion_relationNames` — **every relation name is listed once, where it occurs
  first.**
-/

namespace Relata

namespace SymbolTable

/-! ### Fresh names -/

section FreshNames

variable {before names more : List String} {name : String}

theorem freshNames_cons_of_mem (h : name ∈ before) (names : List String) :
    freshNames before (name :: names) = freshNames before names := by
  rw [freshNames, if_pos (List.contains_iff_mem.mpr h)]

theorem freshNames_cons_of_notMem (h : name ∉ before) (names : List String) :
    freshNames before (name :: names) = name :: freshNames (name :: before) names := by
  rw [freshNames, if_neg (List.contains_iff_mem.not.mpr h)]

/-- The members that are kept. -/
theorem mem_freshNames : name ∈ freshNames before names ↔ name ∈ names ∧ name ∉ before := by
  induction names generalizing before with
  | nil => simp [freshNames]
  | cons first names ih =>
    by_cases h : first ∈ before
    · rw [freshNames_cons_of_mem h, ih, List.mem_cons]
      refine ⟨fun ⟨hmem, hnot⟩ => ⟨Or.inr hmem, hnot⟩, fun ⟨hmem, hnot⟩ => ⟨?_, hnot⟩⟩
      exact hmem.resolve_left fun heq => hnot (heq ▸ h)
    · rw [freshNames_cons_of_notMem h, List.mem_cons, ih, List.mem_cons, List.mem_cons]
      by_cases heq : name = first
      · subst heq
        simp [h]
      · simp [heq]

/-- They are kept once. -/
theorem nodup_freshNames (before names : List String) : (freshNames before names).Nodup := by
  induction names generalizing before with
  | nil => exact List.nodup_nil
  | cons first names ih =>
    by_cases h : first ∈ before
    · rw [freshNames_cons_of_mem h]
      exact ih before
    · rw [freshNames_cons_of_notMem h, List.nodup_cons]
      exact ⟨fun hmem => (mem_freshNames.mp hmem).2 List.mem_cons_self, ih _⟩

/-- They keep the order of their first occurrences. -/
theorem idxOf_freshNames_lt {a b : String} (ha : a ∉ before) (hb : b ∉ before) :
    (freshNames before names).idxOf a < (freshNames before names).idxOf b ↔
      names.idxOf a < names.idxOf b := by
  induction names generalizing before with
  | nil => rfl
  | cons first names ih =>
    by_cases h : first ∈ before
    · -- the first name came before, so it is neither of the two
      have hne : ∀ {c}, c ∉ before → first ≠ c := fun hc heq => hc (heq ▸ h)
      rw [freshNames_cons_of_mem h, ih ha hb, List.idxOf_cons_ne names (hne ha),
        List.idxOf_cons_ne names (hne hb)]
      omega
    · rw [freshNames_cons_of_notMem h]
      by_cases hfa : first = a
      · subst hfa
        by_cases hfb : first = b
        · subst hfb
          simp
        · rw [List.idxOf_cons_self, List.idxOf_cons_self, List.idxOf_cons_ne _ hfb,
            List.idxOf_cons_ne _ hfb]
          exact iff_of_true (Nat.succ_pos _) (Nat.succ_pos _)
      by_cases hfb : first = b
      · subst hfb
        simp
      · rw [List.idxOf_cons_ne _ hfa, List.idxOf_cons_ne _ hfa, List.idxOf_cons_ne _ hfb,
          List.idxOf_cons_ne _ hfb, Nat.succ_lt_succ_iff, Nat.succ_lt_succ_iff]
        exact ih (List.not_mem_cons_of_ne_of_not_mem (Ne.symm hfa) ha)
          (List.not_mem_cons_of_ne_of_not_mem (Ne.symm hfb) hb)

/-- Which names came before matters, and not in which order. -/
theorem freshNames_congr {before' : List String} (h : ∀ name, name ∈ before ↔ name ∈ before')
    (names : List String) : freshNames before names = freshNames before' names := by
  induction names generalizing before before' with
  | nil => rfl
  | cons first names ih =>
    by_cases hmem : first ∈ before
    · rw [freshNames_cons_of_mem hmem, freshNames_cons_of_mem ((h first).mp hmem), ih h]
    · rw [freshNames_cons_of_notMem hmem, freshNames_cons_of_notMem ((h first).not.mp hmem)]
      have hcons : ∀ name, name ∈ first :: before ↔ name ∈ first :: before' := fun name => by
        rw [List.mem_cons, List.mem_cons, h name]
      rw [ih hcons]

/-- More names add to the end. -/
theorem freshNames_append (before names more : List String) :
    freshNames before (names ++ more) =
      freshNames before names ++ freshNames (names ++ before) more := by
  induction names generalizing before with
  | nil => rfl
  | cons first names ih =>
    by_cases h : first ∈ before
    · have hbefore : ∀ name, name ∈ names ++ before ↔ name ∈ first :: names ++ before := by
        intro name
        rw [List.cons_append, List.mem_cons, or_iff_right_of_imp]
        exact fun heq => List.mem_append_right names (heq ▸ h)
      rw [List.cons_append, freshNames_cons_of_mem h, freshNames_cons_of_mem h, ih,
        freshNames_congr hbefore]
    · have hbefore : ∀ name, name ∈ names ++ first :: before ↔ name ∈ first :: names ++ before :=
        fun name => by simp only [List.mem_append, List.mem_cons, List.cons_append, or_left_comm]
      rw [List.cons_append, freshNames_cons_of_notMem h, freshNames_cons_of_notMem h, ih,
        freshNames_congr hbefore]
      simp only [List.cons_append]

end FreshNames

/-! ### Relation names -/

/-- Where a relation name occurs first: the number of the first type that has it, and the number of
the first relation of that name in this type. -/
def firstPlace (types : List TypeSymbol) (name : String) : Nat × Nat :=
  let i := types.findIdx (name ∈ ·.relationNames)
  (i, types[i]?.elim 0 (·.relationNames.idxOf name))

section Places

variable {t : TypeSymbol} {ts : List TypeSymbol} {name : String}

theorem firstPlace_cons_of_mem (h : name ∈ t.relationNames) :
    firstPlace (t :: ts) name = (0, t.relationNames.idxOf name) := by
  simp [firstPlace, List.findIdx_cons, h]

theorem firstPlace_cons_of_notMem (h : name ∉ t.relationNames) :
    firstPlace (t :: ts) name = ((firstPlace ts name).1 + 1, (firstPlace ts name).2) := by
  simp [firstPlace, List.findIdx_cons, h]

/-- One type behind the other, names occur in the order of their places. -/
theorem idxOf_flatMap_lt {a b : String} (ha : a ∈ ts.flatMap (·.relationNames))
    (hb : b ∈ ts.flatMap (·.relationNames)) :
    (ts.flatMap (·.relationNames)).idxOf a < (ts.flatMap (·.relationNames)).idxOf b ↔
      Prod.Lex (· < ·) (· < ·) (firstPlace ts a) (firstPlace ts b) := by
  induction ts with
  | nil => contradiction
  | cons t ts ih =>
    rw [List.flatMap_cons] at ha hb ⊢
    rw [List.idxOf_append, List.idxOf_append, Prod.lex_def]
    rw [List.mem_append] at ha hb
    -- the names of the first type come before all that it does not have
    by_cases hat : a ∈ t.relationNames
    · have hlt := List.idxOf_lt_length_of_mem hat
      rw [firstPlace_cons_of_mem hat, if_pos hat]
      by_cases hbt : b ∈ t.relationNames
      · rw [firstPlace_cons_of_mem hbt, if_pos hbt]
        simp
      · rw [firstPlace_cons_of_notMem hbt, if_neg hbt]
        exact iff_of_true (by omega) (Or.inl (Nat.succ_pos _))
    · rw [firstPlace_cons_of_notMem hat, if_neg hat]
      by_cases hbt : b ∈ t.relationNames
      · have hlt := List.idxOf_lt_length_of_mem hbt
        rw [firstPlace_cons_of_mem hbt, if_pos hbt]
        refine iff_of_false (by omega) ?_
        simp
      · rw [firstPlace_cons_of_notMem hbt, if_neg hbt, Nat.add_lt_add_iff_right,
          ih (ha.resolve_left hat) (hb.resolve_left hbt), Prod.lex_def]
        simp

end Places

/-- The relation names of the types, each once and in the order of the places where they occur
first. -/
structure IsOrderedUnion (types : List TypeSymbol) (names : List String) : Prop where
  nodup : names.Nodup
  mem_iff : ∀ name, name ∈ names ↔ ∃ t ∈ types, ∃ r ∈ t.relations, r.name = name
  order : ∀ a ∈ names, ∀ b ∈ names, names.idxOf a < names.idxOf b ↔
    Prod.Lex (· < ·) (· < ·) (firstPlace types a) (firstPlace types b)

theorem isOrderedUnion_freshNames (types : List TypeSymbol) :
    IsOrderedUnion types (freshNames [] (types.flatMap (·.relationNames))) where
  nodup := nodup_freshNames _ _
  mem_iff name := by
    rw [mem_freshNames, List.mem_flatMap]
    simp [TypeSymbol.relationNames]
  order a ha b hb := by
    obtain ⟨ha, hbefore⟩ := mem_freshNames.mp ha
    obtain ⟨hb, hbefore'⟩ := mem_freshNames.mp hb
    rw [idxOf_freshNames_lt hbefore hbefore', idxOf_flatMap_lt ha hb]

/-- **Every relation name of a table is listed once, where it occurs first.** A type that is added
to the table adds its new names to the end. -/
theorem isOrderedUnion_relationNames (table : SymbolTable) :
    IsOrderedUnion table.types table.relationNames ∧
      ∀ t : TypeSymbol, ∃ new, ({ table with types := table.types ++ [t] }).relationNames =
          table.relationNames ++ new ∧
        ∀ name, name ∈ new ↔ name ∈ t.relationNames ∧ name ∉ table.relationNames := by
  refine ⟨isOrderedUnion_freshNames table.types, fun t => ?_⟩
  refine ⟨freshNames (table.types.flatMap (·.relationNames) ++ []) t.relationNames, ?_, ?_⟩
  · rw [relationNames, relationNames, List.flatMap_append, List.flatMap_singleton,
      freshNames_append]
  · intro name
    rw [mem_freshNames, relationNames, mem_freshNames, List.append_nil]
    simp

end SymbolTable

end Relata
