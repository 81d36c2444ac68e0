import Mathlib.Data.List.Forall2

/-!
# Lists in step

Two lists of one length whose elements are related one by one.

## Main results

* `exists_of_forall₂_left`, `exists_of_forall₂_right` — each element has its counterpart.
* `exists_forall₂` — counterparts of all elements make a list.
* `forall₂_trans` — lists in step with one list are in step with each other.
* `forall₂_imp_of_mem` — a relation may be weakened by what is known of the elements.
* `forall₂_getElem?`, `getLast?_getD_rel` — the elements at one place, and the last ones.
-/

namespace Relata

section Lists

variable {α β : Type} {R S : α → β → Prop} {as : List α} {bs : List β}

/-- Each element of the first list has its counterpart. -/
theorem exists_of_forall₂_left (h : List.Forall₂ R as bs) {a : α} (ha : a ∈ as) :
    ∃ b ∈ bs, R a b := by
  induction h with
  | nil => contradiction
  | @cons a' b as bs hab _ ih =>
    rcases List.mem_cons.mp ha with rfl | ha
    · exact ⟨b, List.mem_cons_self, hab⟩
    · obtain ⟨c, hc, hac⟩ := ih ha
      exact ⟨c, List.mem_cons_of_mem b hc, hac⟩

/-- Each element of the second list is a counterpart. -/
theorem exists_of_forall₂_right (h : List.Forall₂ R as bs) {b : β} (hb : b ∈ bs) :
    ∃ a ∈ as, R a b :=
  exists_of_forall₂_left (R := fun b a => R a b) h.flip hb

theorem ne_nil_of_forall₂ (h : List.Forall₂ R as bs) (hne : bs ≠ []) : as ≠ [] := by
  rintro rfl
  exact hne (List.forall₂_nil_left_iff.mp h)

/-- Counterparts of all elements make a list. -/
theorem exists_forall₂ (h : ∀ a ∈ as, ∃ b, R a b) : ∃ bs, List.Forall₂ R as bs := by
  induction as with
  | nil => exact ⟨[], .nil⟩
  | cons a as ih =>
    obtain ⟨b, hb⟩ := h a List.mem_cons_self
    obtain ⟨bs, hbs⟩ := ih fun a' ha' => h a' (List.mem_cons_of_mem a ha')
    exact ⟨b :: bs, .cons hb hbs⟩

/-- Lists in step with one list are in step with each other. -/
theorem forall₂_trans {γ : Type} {S : β → γ → Prop} {T : α → γ → Prop} {cs : List γ}
    (h : List.Forall₂ R as bs) (h' : List.Forall₂ S bs cs)
    (htrans : ∀ a b c, R a b → S b c → T a c) : List.Forall₂ T as cs := by
  induction h generalizing cs with
  | nil =>
    cases h'
    exact .nil
  | cons hab _ ih =>
    cases h' with
    | cons hbc hrest => exact .cons (htrans _ _ _ hab hbc) (ih hrest)

/-- A relation may be weakened by what is known of the elements. -/
theorem forall₂_imp_of_mem (h : List.Forall₂ R as bs)
    (himp : ∀ a ∈ as, ∀ b ∈ bs, R a b → S a b) : List.Forall₂ S as bs := by
  induction h with
  | nil => exact .nil
  | @cons a b as bs hab _ ih =>
    refine .cons (himp a List.mem_cons_self b List.mem_cons_self hab) (ih fun a' ha' b' hb' => ?_)
    exact himp a' (List.mem_cons_of_mem a ha') b' (List.mem_cons_of_mem b hb')

/-- So are the elements at one place, if the lists are as long. -/
theorem forall₂_getElem? (h : List.Forall₂ R as bs) (i : Nat) :
    List.Forall₂ R as[i]?.toList bs[i]?.toList := by
  induction h generalizing i with
  | nil => exact .nil
  | cons hab _ ih =>
    cases i with
    | zero => exact .cons hab .nil
    | succ i => exact ih i

/-- The last elements are related, also where there are none and others stand for them. -/
theorem getLast?_getD_rel (h : List.Forall₂ R as bs) {a : α} {b : β} (hab : R a b) :
    R (as.getLast?.getD a) (bs.getLast?.getD b) := by
  induction h generalizing a b with
  | nil => exact hab
  | cons hab' _ ih =>
    rw [List.getLast?_cons, List.getLast?_cons]
    exact ih hab'

end Lists

end Relata
