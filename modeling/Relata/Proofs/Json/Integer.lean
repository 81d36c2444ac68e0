import Relata.Proofs.Json.Document

/-!
# Integers read back

An integer that fits in 64 bits is written with its digits, which are read as the same integer: no
digit is left over, and only zero starts with a zero.

## Main results

* `absorb_eq` — digits of a number that fits are all taken.
* `isLegible_integer` — **an integer of 64 bits is read back from its text.**
-/

namespace Relata.Json

/-! ### Digits -/

theorem le_ofDigitChars (ds : List Char) (n : Nat) : n ≤ Nat.ofDigitChars 10 ds n := by
  induction ds generalizing n with
  | nil => exact Nat.le_refl n
  | cons d ds ih =>
    rw [Nat.ofDigitChars_cons]
    have hnext := ih (10 * n + (d.toNat - '0'.toNat))
    omega

/-- Digits of a number that fits are all taken. -/
theorem absorb_eq {ds : List Char} {n : Nat} (h : Nat.ofDigitChars 10 ds n < Nat.pow 2 64) :
    absorb n ds = (Nat.ofDigitChars 10 ds n, []) := by
  induction ds generalizing n with
  | nil => rfl
  | cons d ds ih =>
    rw [Nat.ofDigitChars_cons] at h ⊢
    have hnext : 10 * n + (d.toNat - '0'.toNat) < Nat.pow 2 64 :=
      Nat.lt_of_le_of_lt (le_ofDigitChars ds _) h
    rw [absorb, if_pos hnext]
    exact ih h

/-- Only zero starts with a zero. -/
theorem eq_of_head?_toDigits {n : Nat} (h : (Nat.toDigits 10 n).head? = some '0') :
    Nat.toDigits 10 n = ['0'] := by
  induction n using Nat.strongRecOn with
  | _ n ih =>
  rw [Nat.toDigits_eq_if (by decide)] at h ⊢
  split at h
  · next hsmall =>
    rw [if_pos hsmall]
    rw [Option.some.inj h]
  · next hlarge =>
    have hne : Nat.toDigits 10 (n / 10) ≠ [] := Nat.toDigits_ne_nil
    rw [List.head?_append_of_ne_nil _ hne] at h
    have hzero := ih (n / 10) (by omega) h
    have hvalue : Nat.ofDigitChars 10 (Nat.toDigits 10 (n / 10)) 0 = n / 10 :=
      Nat.ofDigitChars_toDigits (by decide) (by decide)
    rw [hzero] at hvalue
    have hnone : n / 10 = 0 := hvalue.symm
    omega

theorem wholeText_digits (n : Nat) : WholeText (Number.digits n) :=
  ⟨⟨Nat.toDigits_ne_nil, fun _ hd => Nat.isDigit_of_mem_toDigits (by decide) (by decide) hd⟩,
    eq_of_head?_toDigits⟩

theorem absorb_digits {n : Nat} (h : n < Nat.pow 2 64) : absorb 0 (Number.digits n) = (n, []) := by
  have hvalue : Nat.ofDigitChars 10 (Number.digits n) 0 = n :=
    Nat.ofDigitChars_toDigits (by decide) (by decide)
  rw [absorb_eq (by rwa [hvalue]), hvalue]

/-! ### Integers -/

/-- The literal that is written for an integer. -/
def NumberLiteral.ofInteger (n : Int) : NumberLiteral :=
  .nowhere (decide (n < 0)) (Number.digits n.natAbs) [] none true

theorem numberText_integer (n : Int) : NumberText (Number.integer n).text (.ofInteger n) := by
  have hwhole := wholeText_digits n.natAbs
  rw [Number.text, NumberLiteral.ofInteger]
  by_cases hn : n < 0
  · have htext := NumberText.mk .present hwhole .absent .absent
    rw [if_pos hn, decide_eq_true hn]
    simpa using htext
  · have htext := NumberText.mk .absent hwhole .absent .absent
    rw [if_neg hn, decide_eq_false hn]
    simpa using htext

/-- An integer that fits in 64 bits is what its literal stands for. -/
theorem value_ofInteger {n : Int} (hlow : -(Nat.pow 2 63 : Int) ≤ n)
    (hhigh : n < (Nat.pow 2 64 : Int)) :
    (NumberLiteral.ofInteger n).value = .ok (.integer n) := by
  have hhalf : Nat.pow 2 63 = 9223372036854775808 := rfl
  have hfull : Nat.pow 2 64 = 18446744073709551616 := rfl
  have hfits : n.natAbs < Nat.pow 2 64 := by omega
  simp only [NumberLiteral.ofInteger, NumberLiteral.nowhere, NumberLiteral.value,
    absorb_digits hfits, List.isEmpty_nil, Bool.and_true, if_true]
  by_cases hn : n < 0
  · have hsmall : ¬ (decide (n.natAbs = 0) || decide (Nat.pow 2 63 < n.natAbs)) = true := by
      rw [Bool.or_eq_true, decide_eq_true_eq, decide_eq_true_eq]
      omega
    have habs : -(n.natAbs : Int) = n := by omega
    rw [decide_eq_true hn, Bool.not_true, if_neg Bool.false_ne_true, if_neg hsmall, habs]
  · have habs : (n.natAbs : Int) = n := by omega
    rw [decide_eq_false hn, Bool.not_false, if_pos rfl, habs]

/-- **An integer of 64 bits is read back from its text.** -/
theorem isLegible_integer {n : Int} (hlow : -(Nat.pow 2 63 : Int) ≤ n)
    (hhigh : n < (Nat.pow 2 64 : Int)) :
    IsLegible (.number (.integer n)) := by
  have htext := FormText.number (numberText_integer n)
  rw [value_ofInteger hlow hhigh] at htext
  exact .number htext

end Relata.Json
