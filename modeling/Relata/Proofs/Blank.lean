import Mathlib.Data.List.DropRight
import Relata.Text.Blank

/-!
# White space around a text

The trimmed form of a text is what stands between its outer white space.

## Main results

* `trim_append` — white space around a text does not change its trimmed form.
* `trim_split` — a text is its trimmed form between white space.
* `trim_trim`, `trimmed_trimmed` — a trimmed text stays as it is.
-/

namespace Relata.Text

/-- White space around a text does not change its trimmed form. -/
theorem trim_append {pad₁ s pad₂ : List Char} (h₁ : ∀ c ∈ pad₁, isBlank c = true)
    (h₂ : ∀ c ∈ pad₂, isBlank c = true) : trim (pad₁ ++ s ++ pad₂) = trim s := by
  have hstart : trimStart (pad₁ ++ s ++ pad₂) = trimStart (s ++ pad₂) := by
    rw [List.append_assoc]
    exact List.dropWhile_append_of_pos h₁
  have hend : ∀ t, trimEnd (t ++ pad₂) = trimEnd t := by
    intro t
    rw [trimEnd, List.reverse_append, List.dropWhile_append_of_pos (by simpa using h₂)]
    rfl
  rw [trim, hstart, trimStart, List.dropWhile_append]
  split
  · next hempty =>
    have hpad : pad₂.dropWhile isBlank = [] := by
      have hnil : (pad₂ ++ []).dropWhile isBlank = [] := List.dropWhile_append_of_pos h₂
      rwa [List.append_nil] at hnil
    have hs : trimStart s = [] := List.isEmpty_iff.mp hempty
    rw [hpad, trim, hs]
  · exact hend _

/-- A text is its trimmed form between white space. -/
theorem trim_split (s : List Char) :
    ∃ pad₁ pad₂, s = pad₁ ++ trim s ++ pad₂ ∧ (∀ c ∈ pad₁, isBlank c = true) ∧
      (∀ c ∈ pad₂, isBlank c = true) := by
  refine ⟨s.takeWhile isBlank, (trimStart s).rtakeWhile isBlank, ?_,
    fun c hc => List.mem_takeWhile_imp hc, fun c hc => List.mem_rtakeWhile_imp hc⟩
  have hend : trim s ++ (trimStart s).rtakeWhile isBlank = trimStart s :=
    List.rdropWhile_append_rtakeWhile
  rw [List.append_assoc, hend, trimStart, List.takeWhile_append_dropWhile]

/-- A trimmed text stays as it is. -/
theorem trim_trim (s : List Char) : trim (trim s) = trim s := by
  -- what trimming the end leaves starts as before
  have hstart : trimStart (trim s) = trim s := by
    have hprefix : trim s <+: trimStart s := List.rdropWhile_prefix _ _
    cases htrim : trim s with
    | nil => rfl
    | cons c t =>
      obtain ⟨u, hu⟩ := hprefix
      rw [htrim] at hu
      have hblank := List.head?_dropWhile_not isBlank s
      rw [← trimStart, ← hu] at hblank
      exact List.dropWhile_cons_of_neg (by simpa using hblank)
  rw [trim, hstart]
  exact List.rdropWhile_idempotent _ _

/-- So does a trimmed string. -/
theorem trimmed_trimmed (s : String) : trimmed (trimmed s) = trimmed s := by
  rw [trimmed, trimmed, String.toList_ofList, trim_trim]

end Relata.Text
