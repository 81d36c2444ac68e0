import Relata.Json.Literal
import Relata.Proofs.Character

/-!
# Number literals wherever they stand

The number literals of JSON, described part by part. The scanner takes a literal apart in the same
way wherever it stands and whatever follows, if what follows does not go on with the number. The
offsets that it keeps only place complaints, so the number is the same as well.

## Main definitions

* `Digits`, `WholeText`, `FractionText`, `ExponentText` — the parts of a literal.
* `NumberText` — the number literals.
* `EndsNumber` — what may stand behind a number.

## Main results

* `NumberLiteral.value_unplaced` — the offsets do not matter for the number.
* `NumberText.scanNumber_append` — **a number literal is read alike wherever it stands.**
-/

namespace Relata.Json

/-! ### Texts -/

/-- The sign of a number, and whether it has one. -/
inductive MinusText : List Char → Bool → Prop
  | absent : MinusText [] false
  | present : MinusText ['-'] true

/-- A run of digits. -/
def Digits (ds : List Char) : Prop := ds ≠ [] ∧ ∀ d ∈ ds, d.isDigit = true

/-- The digits before the point. Only zero starts with a zero. -/
def WholeText (ds : List Char) : Prop := Digits ds ∧ (ds.head? = some '0' → ds = ['0'])

/-- A point and the digits behind it, if there are any. -/
inductive FractionText : List Char → List Char → Prop
  | absent : FractionText [] []
  | present {ds : List Char} : Digits ds → FractionText ('.' :: ds) ds

/-- The sign of an exponent, and whether it is a minus. -/
inductive SignText : List Char → Bool → Prop
  | absent : SignText [] false
  | plus : SignText ['+'] false
  | minus : SignText ['-'] true

/-- The letter, the sign and the digits of an exponent, if there is one. -/
inductive ExponentText : List Char → Option (Bool × List Char) → Prop
  | absent : ExponentText [] none
  | present {e : Char} {sign ds : List Char} {negative : Bool} :
      e = 'e' ∨ e = 'E' → SignText sign negative → Digits ds →
      ExponentText (e :: (sign ++ ds)) (some (negative, ds))

/-- A literal that stands nowhere. -/
def NumberLiteral.nowhere (negative : Bool) (whole fraction : List Char)
    (exponent : Option (Bool × List Char)) (plain : Bool) : NumberLiteral :=
  ⟨negative, whole, fraction, exponent.map fun e => (e.1, e.2, 0), plain, 0⟩

/-- The number literals, with what they are taken apart to. -/
inductive NumberText : List Char → NumberLiteral → Prop
  | mk {sign whole point fraction power : List Char} {negative : Bool}
      {exponent : Option (Bool × List Char)} :
      MinusText sign negative → WholeText whole → FractionText point fraction →
      ExponentText power exponent →
      NumberText (sign ++ (whole ++ (point ++ power)))
        (.nowhere negative whole fraction exponent (point.isEmpty && power.isEmpty))

/-- What may stand behind a number: nothing that goes on with it. -/
def EndsNumber (rest : List Char) : Prop :=
  ∀ c ∈ rest.head?, c.isDigit = false ∧ c ≠ '.' ∧ c ≠ 'e' ∧ c ≠ 'E'

/-! ### Offsets -/

namespace NumberLiteral

/-- The literal without its offsets. -/
def unplaced (lit : NumberLiteral) : NumberLiteral :=
  .nowhere lit.negative lit.whole lit.fraction (lit.exponent.map fun e => (e.1, e.2.1)) lit.plain

/-- The offsets do not matter for the number. -/
theorem value_unplaced (lit : NumberLiteral) :
    lit.unplaced.value.toOption = lit.value.toOption := by
  obtain ⟨negative, whole, fraction, exponent, plain, stop⟩ := lit
  unfold unplaced nowhere value
  by_cases hplain : (plain && (absorb 0 whole).2.isEmpty) = true
  · simp only [hplain, if_true]
  · cases exponent with
    | none =>
      simp only [hplain, Option.map_none]
      cases scaleFloat 4 _ _ with
      | none => rfl
      | some f => rfl
    | some e =>
      obtain ⟨minus, ds, start⟩ := e
      simp only [hplain, Option.map_some, Bool.false_eq_true, if_false]
      generalize List.foldl _ _ ds = fits
      by_cases hfits : fits.2 = 0
      · simp only [hfits, if_true]
        cases scaleFloat 4 _ _ with
        | none => rfl
        | some f => rfl
      · -- an exponent that is too large places its complaint by its first digit
        simp only [hfits, if_false]
        generalize (_ && !minus) = large
        cases large with
        | true => rfl
        | false => rfl

end NumberLiteral

/-! ### Scanning -/

theorem spanDigits_append {ds rest : List Char} (hds : ∀ d ∈ ds, d.isDigit = true)
    (hrest : ∀ c ∈ rest.head?, c.isDigit = false) (off : Nat) :
    spanDigits ⟨off, ds ++ rest⟩ = (ds, ⟨off + ds.length, rest⟩) := by
  have htake : rest.takeWhile Char.isDigit = [] := by
    cases rest with
    | nil => rfl
    | cons c rest => exact List.takeWhile_cons_of_neg (by simp [hrest c rfl])
  have hdrop : rest.dropWhile Char.isDigit = rest := by
    cases rest with
    | nil => rfl
    | cons c rest => exact List.dropWhile_cons_of_neg (by simp [hrest c rfl])
  simp only [spanDigits, List.takeWhile_append_of_pos hds, List.dropWhile_append_of_pos hds,
    htake, hdrop, List.append_nil]

/-- The first digit is none of the other characters of a number. -/
theorem Digits.ne_of_head {d : Char} {ds : List Char} (h : Digits (d :: ds)) {c : Char}
    (hc : c.isDigit = false) : d ≠ c := by
  rintro rfl
  rw [h.2 d List.mem_cons_self] at hc
  contradiction

/-- A number starts with its sign or a digit. -/
theorem NumberText.start {t : List Char} {lit : NumberLiteral} (h : NumberText t lit) :
    ∃ c s, t = c :: s ∧ (c = '-' || c.isDigit) = true := by
  cases h with
  | @mk sign whole _ _ _ _ _ hsign hwhole =>
    obtain ⟨d, ds, rfl⟩ : ∃ d ds, whole = d :: ds := List.exists_cons_of_ne_nil hwhole.1.1
    cases hsign with
    | absent => exact ⟨d, _, rfl, by simp [hwhole.1.2 d List.mem_cons_self]⟩
    | present => exact ⟨'-', _, rfl, by decide⟩

section Scans

variable {rest : List Char}

theorem EndsNumber.noDigit (h : EndsNumber rest) : ∀ c ∈ rest.head?, c.isDigit = false :=
  fun c hc => (h c hc).1

/-- The digits of an exponent are read behind its sign. -/
theorem scanExponent_append {sign ds : List Char} {negative : Bool} (hsign : SignText sign negative)
    (hds : Digits ds) (hrest : EndsNumber rest) (lit : NumberLiteral) (off : Nat) :
    ∃ found stop, scanExponent lit ⟨off, sign ++ (ds ++ rest)⟩ = .ok (found, ⟨stop, rest⟩) ∧
      found.unplaced = .nowhere lit.negative lit.whole lit.fraction (some (negative, ds)) false := by
  obtain ⟨d, ds', rfl⟩ : ∃ d ds', ds = d :: ds' := List.exists_cons_of_ne_nil hds.1
  have hspan : ∀ n, spanDigits ⟨n, d :: ds' ++ rest⟩ = _ :=
    spanDigits_append hds.2 hrest.noDigit
  simp only [List.cons_append] at hspan
  cases hsign with
  | absent =>
    have hplus : d ≠ '+' := hds.ne_of_head rfl
    have hminus : d ≠ '-' := hds.ne_of_head rfl
    refine ⟨⟨lit.negative, lit.whole, lit.fraction, some (false, d :: ds', off), false,
      off + (d :: ds').length⟩, off + (d :: ds').length, ?_, rfl⟩
    simp [scanExponent, hplus, hminus, hspan]
  | plus =>
    refine ⟨⟨lit.negative, lit.whole, lit.fraction, some (false, d :: ds', off + 1), false,
      off + 1 + (d :: ds').length⟩, off + 1 + (d :: ds').length, ?_, rfl⟩
    simp only [scanExponent, List.cons_append, List.nil_append, hspan]
  | minus =>
    refine ⟨⟨lit.negative, lit.whole, lit.fraction, some (true, d :: ds', off + 1), false,
      off + 1 + (d :: ds').length⟩, off + 1 + (d :: ds').length, ?_, rfl⟩
    simp only [scanExponent, List.cons_append, List.nil_append, hspan]

theorem scanExponent?_append {power : List Char} {exponent : Option (Bool × List Char)}
    (hpower : ExponentText power exponent) (hrest : EndsNumber rest) (lit : NumberLiteral)
    (hlit : lit.exponent = none) (off : Nat) :
    ∃ found stop, scanExponent? lit ⟨off, power ++ rest⟩ = .ok (found, ⟨stop, rest⟩) ∧
      found.unplaced =
        .nowhere lit.negative lit.whole lit.fraction exponent (lit.plain && power.isEmpty) := by
  cases hpower with
  | absent =>
    refine ⟨lit, off, ?_, ?_⟩
    · cases rest with
      | nil => rfl
      | cons c rest =>
        obtain ⟨-, -, hsmall, hlarge⟩ := hrest c rfl
        simp [scanExponent?, hsmall, hlarge]
    · rw [NumberLiteral.unplaced, hlit, List.isEmpty_nil, Bool.and_true]
      rfl
  | present he hsign hds =>
    obtain ⟨found, stop, hscan, hfound⟩ := scanExponent_append hsign hds hrest lit (off + 1)
    refine ⟨found, stop, ?_, ?_⟩
    · rcases he with rfl | rfl
      · simp only [List.cons_append, List.append_assoc, scanExponent?]
        exact hscan
      · simp only [List.cons_append, List.append_assoc, scanExponent?]
        exact hscan
    · rw [hfound, List.isEmpty_cons, Bool.and_false]

/-- An exponent, or what stands behind the number, goes on neither with digits nor a point. -/
theorem ExponentText.head_append {power : List Char} {exponent : Option (Bool × List Char)}
    (hpower : ExponentText power exponent) (hrest : EndsNumber rest) :
    ∀ c ∈ (power ++ rest).head?, c.isDigit = false ∧ c ≠ '.' := by
  intro c hc
  cases hpower with
  | absent => exact ⟨(hrest c hc).1, (hrest c hc).2.1⟩
  | present he =>
    obtain rfl := Option.some.inj hc
    rcases he with rfl | rfl
    · decide
    · decide

theorem scanFraction?_append {point power fraction : List Char}
    {exponent : Option (Bool × List Char)} (hpoint : FractionText point fraction)
    (hpower : ExponentText power exponent) (hrest : EndsNumber rest) (negative : Bool)
    (whole : List Char) (stop off : Nat) :
    ∃ found last, scanFraction? ⟨negative, whole, [], none, true, stop⟩
        ⟨off, point ++ (power ++ rest)⟩ = .ok (found, ⟨last, rest⟩) ∧
      found.unplaced =
        .nowhere negative whole fraction exponent (point.isEmpty && power.isEmpty) := by
  have hhead := hpower.head_append hrest
  cases hpoint with
  | absent =>
    obtain ⟨found, last, hscan, hfound⟩ := scanExponent?_append hpower hrest
      ⟨negative, whole, [], none, true, stop⟩ rfl off
    refine ⟨found, last, ?_, hfound⟩
    rw [List.nil_append, ← hscan]
    -- what follows is no point, so no fraction is read
    cases hbehind : power ++ rest with
    | nil => rfl
    | cons c behind =>
      have hc : c ≠ '.' := (hhead c (by rw [hbehind]; rfl)).2
      simp [scanFraction?, hc]
  | present hds =>
    obtain ⟨d, ds, rfl⟩ : ∃ d ds, fraction = d :: ds := List.exists_cons_of_ne_nil hds.1
    have hspan := spanDigits_append hds.2 (fun c hc => (hhead c hc).1) (off + 1)
    obtain ⟨found, last, hscan, hfound⟩ := scanExponent?_append hpower hrest
      ⟨negative, whole, d :: ds, none, false, off + 1 + (d :: ds).length⟩ rfl
      (off + 1 + (d :: ds).length)
    refine ⟨found, last, ?_, hfound⟩
    simp only [scanFraction?, List.cons_append] at hspan ⊢
    rw [hspan]
    exact hscan

/-- The whole digits are read behind the sign. -/
theorem scanNumber_whole {sign whole behind : List Char} {negative : Bool}
    (hsign : MinusText sign negative) (hwhole : WholeText whole)
    (hbehind : ∀ c ∈ behind.head?, c.isDigit = false) (off : Nat) :
    ∃ stop, scanNumber ⟨off, sign ++ (whole ++ behind)⟩ =
      scanFraction? ⟨negative, whole, [], none, true, stop⟩ ⟨stop, behind⟩ := by
  obtain ⟨hdigits, hzero⟩ := hwhole
  obtain ⟨d, ds, rfl⟩ : ∃ d ds, whole = d :: ds := List.exists_cons_of_ne_nil hdigits.1
  have hminus : d ≠ '-' := hdigits.ne_of_head rfl
  have hspan : ∀ n, spanDigits ⟨n, d :: ds ++ behind⟩ = _ :=
    spanDigits_append hdigits.2 hbehind
  cases ds with
  | nil =>
    simp only [List.cons_append, List.nil_append] at hspan
    cases hsign with
    | absent => exact ⟨off + 1, by simp [scanNumber, hminus, hspan]⟩
    | present => exact ⟨off + 1 + 1, by simp [scanNumber, hspan]⟩
  | cons d' ds =>
    -- a zero has no digit behind it
    have hd : d ≠ '0' := by
      rintro rfl
      exact List.cons_ne_nil d' ds (List.cons.inj (hzero rfl)).2
    simp only [List.cons_append] at hspan
    cases hsign with
    | absent => exact ⟨off + (d :: d' :: ds).length, by simp [scanNumber, hminus, hspan, hd]⟩
    | present => exact ⟨off + 1 + (d :: d' :: ds).length, by simp [scanNumber, hspan, hd]⟩

/-- **A number literal is read alike wherever it stands**, if what follows does not go on with
it. -/
theorem NumberText.scanNumber_append {t : List Char} {lit : NumberLiteral} (h : NumberText t lit)
    (hrest : EndsNumber rest) (off : Nat) :
    ∃ found stop, scanNumber ⟨off, t ++ rest⟩ = .ok (found, ⟨stop, rest⟩) ∧
      found.value.toOption = lit.value.toOption := by
  cases h with
  | @mk sign whole point fraction power negative exponent hsign hwhole hpoint hpower =>
    have hhead : ∀ c ∈ (point ++ (power ++ rest)).head?, c.isDigit = false := by
      intro c hc
      cases hpoint with
      | absent => exact (hpower.head_append hrest c hc).1
      | present =>
        obtain rfl := Option.some.inj hc
        decide
    obtain ⟨start, hscan⟩ := scanNumber_whole hsign hwhole hhead off
    obtain ⟨found, stop, hfraction, hfound⟩ :=
      scanFraction?_append hpoint hpower hrest negative whole start start
    refine ⟨found, stop, ?_, ?_⟩
    · simp only [List.append_assoc]
      rw [hscan, hfraction]
    · rw [← found.value_unplaced, hfound]

end Scans

end Relata.Json
