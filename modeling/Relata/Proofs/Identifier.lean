import Relata.Identifier
import Relata.Proofs.Character

/-!
# Identifiers are well formed

The identifier of a name is an identifier of the generated language, whatever the name, and its
stem can start the name of a declaration.

## Main definitions

* `IsIdentifier` — the identifiers of the generated language.
* `IsStem` — what declarations are named after.

## Main results

* `isIdentifier_sanitize` — sanitizing gives an identifier.
* `sanitize_keeps` — **sanitizing gives an identifier and changes no more than that takes.**
* `IsIdentifier.isStem_pascalCase` — the stem of an identifier starts with no small letter.
-/

namespace Relata

/-- An identifier of the generated language: a letter, underscore or dollar sign, then those and
digits, unless the word has a meaning of its own. -/
structure IsIdentifier (s : String) : Prop where
  ne_nil : s.toList ≠ []
  chars : ∀ c ∈ s.toList, isIdentifierChar c = true
  head : ∀ c ∈ s.toList.head?, c.isDigit = false
  notReserved : isReservedWord s = false

instance (s : String) : Decidable (IsIdentifier s) :=
  decidable_of_iff (s.toList ≠ [] ∧ (∀ c ∈ s.toList, isIdentifierChar c = true) ∧
      (∀ c ∈ s.toList.head?, c.isDigit = false) ∧ isReservedWord s = false)
    ⟨fun ⟨hne, hcs, hd, hr⟩ => ⟨hne, hcs, hd, hr⟩, fun ⟨hne, hcs, hd, hr⟩ => ⟨hne, hcs, hd, hr⟩⟩

/-- A text of identifier characters that starts with neither a digit nor a small letter. -/
structure IsStem (s : String) : Prop where
  ne_nil : s.toList ≠ []
  chars : ∀ c ∈ s.toList, isIdentifierChar c = true
  head : ∀ c ∈ s.toList.head?, c.isDigit = false ∧ c.isLower = false

/-! ### Characters -/

/-- What holds of each of the first 128 characters holds of every character of ASCII. -/
theorem forall_ascii {P : Char → Prop} (h : ∀ n < 128, P (Char.ofNat n)) {c : Char}
    (hc : c.toNat < 0x80) : P c := by
  have hP := h c.toNat hc
  rwa [Char.ofNat_toNat] at hP

theorem toNat_lt_of_isIdentifierChar {c : Char} (h : isIdentifierChar c = true) :
    c.toNat < 0x80 := by
  delta isIdentifierChar Char.isAlphanum Char.isAlpha Char.isUpper Char.isLower Char.isDigit at h
  simp only [Bool.or_eq_true, Bool.and_eq_true, decide_eq_true_eq, UInt32.le_iff_toNat_le,
    ge_iff_le] at h
  rcases h with (h | rfl) | rfl
  · have hz : 'z'.val.toNat = 122 := rfl
    have hZ : 'Z'.val.toNat = 90 := rfl
    have hnine : '9'.val.toNat = 57 := rfl
    have hc : c.toNat = c.val.toNat := rfl
    omega
  · decide
  · decide

theorem isIdentifierChar_identifierChar (c : Char) :
    isIdentifierChar (identifierChar c) = true := by
  unfold identifierChar
  split
  · assumption
  · decide

/-- The capital of an identifier character. -/
theorem isIdentifierChar_toUpper {c : Char} (h : isIdentifierChar c = true) :
    isIdentifierChar c.toUpper = true ∧ c.toUpper.isLower = false ∧
      (c.isDigit = false → c.toUpper.isDigit = false) := by
  refine forall_ascii (P := fun c => isIdentifierChar c = true → isIdentifierChar c.toUpper = true ∧
    c.toUpper.isLower = false ∧ (c.isDigit = false → c.toUpper.isDigit = false)) ?_
    (toNat_lt_of_isIdentifierChar h) h
  decide

/-- An identifier character has one capital. -/
theorem uppercase_of_isIdentifierChar {c : Char} (h : isIdentifierChar c = true) :
    Text.uppercase c = [c.toUpper] :=
  Text.uppercase_of_ascii (toNat_lt_of_isIdentifierChar h)

/-! ### Sanitizing -/

/-- No reserved word starts with an underscore. -/
theorem isReservedWord_underscore (cs : List Char) :
    isReservedWord (String.ofList ('_' :: cs)) = false := by
  have hhead : ∀ w ∈ reservedWords, w.toList.head? ≠ some '_' := by decide
  rw [isReservedWord, Bool.eq_false_iff, ne_eq, List.contains_iff_mem]
  intro hmem
  exact hhead _ hmem (by rw [String.toList_ofList]; rfl)

theorem isIdentifierChar_of_mem_map {name : List Char} {c : Char}
    (h : c ∈ name.map identifierChar) : isIdentifierChar c = true := by
  obtain ⟨d, -, rfl⟩ := List.mem_map.mp h
  exact isIdentifierChar_identifierChar d

/-- A text of identifier characters needs no escape if it is an identifier. -/
theorem needsEscape_eq_false {cs : List Char} (h : ∀ c ∈ cs, isIdentifierChar c = true) :
    needsEscape cs = false ↔ IsIdentifier (String.ofList cs) := by
  cases cs with
  | nil => exact iff_of_false (by decide) fun hs => hs.ne_nil rfl
  | cons c cs =>
    rw [needsEscape, Bool.or_eq_false_iff]
    constructor
    · rintro ⟨hdigit, hreserved⟩
      exact {
        ne_nil := by simp
        chars := by rwa [String.toList_ofList]
        head := by simpa using hdigit
        notReserved := hreserved }
    · exact fun hs => ⟨hs.head c (by simp), hs.notReserved⟩

/-- Sanitizing gives an identifier. -/
theorem isIdentifier_sanitize (name : String) : IsIdentifier (sanitize name) := by
  have hchars : ∀ c ∈ name.toList.map identifierChar, isIdentifierChar c = true :=
    fun c => isIdentifierChar_of_mem_map
  simp only [sanitize, sanitizeChars]
  split
  · exact {
      ne_nil := by simp
      chars := by simpa using ⟨by decide, by simpa using hchars⟩
      head := by simp
      notReserved := isReservedWord_underscore _ }
  · next hescape => exact (needsEscape_eq_false hchars).mp (Bool.eq_false_iff.mpr hescape)

/-- A name is its own identifier if it is an identifier. -/
theorem sanitize_eq_self {name : String} : sanitize name = name ↔ IsIdentifier name := by
  refine ⟨fun h => h ▸ isIdentifier_sanitize name, fun h => ?_⟩
  have hmap : name.toList.map identifierChar = name.toList := by
    have hid : ∀ c ∈ name.toList, identifierChar c = id c := fun c hc => if_pos (h.chars c hc)
    rw [List.map_congr_left hid, List.map_id]
  have hescape : needsEscape name.toList = false :=
    (needsEscape_eq_false h.chars).mpr (by rwa [String.ofList_toList])
  simp [sanitize, sanitizeChars, hmap, hescape]

/-- **Sanitizing gives an identifier and changes no more than that takes.** Identifiers stay as they
are, so that sanitizing a second time changes nothing. Behind the underscore that stands in front of
what would be no identifier, there is a character for each character of the name: the same one if
identifiers may have it, and an underscore otherwise. -/
theorem sanitize_keeps (name : String) :
    IsIdentifier (sanitize name) ∧ (sanitize name = name ↔ IsIdentifier name) ∧
      sanitize (sanitize name) = sanitize name ∧
      ∃ body : List Char,
        (sanitize name).toList =
          (if IsIdentifier (String.ofList body) then body else '_' :: body) ∧
        body.length = name.length ∧
        ∀ i : Nat, body[i]? =
          name.toList[i]?.map fun c => if isIdentifierChar c then c else '_' := by
  have hchars : ∀ c ∈ name.toList.map identifierChar, isIdentifierChar c = true :=
    fun c => isIdentifierChar_of_mem_map
  refine ⟨isIdentifier_sanitize name, sanitize_eq_self,
    sanitize_eq_self.mpr (isIdentifier_sanitize name), name.toList.map identifierChar, ?_, ?_,
    fun i => List.getElem?_map⟩
  · rw [sanitize, String.toList_ofList, sanitizeChars]
    cases hescape : needsEscape (name.toList.map identifierChar) with
    | false => rw [if_pos ((needsEscape_eq_false hchars).mp hescape), if_neg Bool.false_ne_true]
    | true =>
      have hnot : ¬ IsIdentifier (String.ofList (name.toList.map identifierChar)) := fun h =>
        Bool.false_ne_true (((needsEscape_eq_false hchars).mpr h).symm.trans hescape)
      rw [if_neg hnot, if_pos rfl]
  · rw [List.length_map, String.length_toList]

/-! ### Stems -/

/-- The segments hold identifier characters only. -/
theorem isIdentifierChar_of_mem_joinSegments {atStart : Bool} {cs : List Char}
    (h : ∀ c ∈ cs, isIdentifierChar c = true) {d : Char} (hd : d ∈ joinSegments atStart cs) :
    isIdentifierChar d = true := by
  induction cs generalizing atStart with
  | nil => simp [joinSegments] at hd
  | cons c cs ih =>
    have hcs : ∀ e ∈ cs, isIdentifierChar e = true := fun e he => h e (List.mem_cons_of_mem c he)
    have hc : isIdentifierChar c = true := h c List.mem_cons_self
    rw [joinSegments, uppercase_of_isIdentifierChar hc] at hd
    split at hd
    · exact ih hcs hd
    split at hd
    · rcases List.mem_cons.mp hd with rfl | hd
      · exact (isIdentifierChar_toUpper hc).1
      · exact ih hcs hd
    · rcases List.mem_cons.mp hd with rfl | hd
      · exact hc
      · exact ih hcs hd

/-- The stem of an identifier starts with no small letter. -/
theorem IsIdentifier.isStem_pascalCase {i : String} (h : IsIdentifier i) :
    IsStem (pascalCase i) := by
  obtain ⟨hne, hchars, hhead, -⟩ := h
  unfold pascalCase pascalCaseChars
  generalize i.toList = cs at hne hchars hhead
  cases cs with
  | nil => exact absurd rfl hne
  | cons c cs =>
    have hc : isIdentifierChar c = true := hchars c List.mem_cons_self
    have hmem : ∀ d ∈ (c :: cs).takeWhile (· = '_') ++
        joinSegments true ((c :: cs).dropWhile (· = '_')), isIdentifierChar d = true := by
      intro d hd
      rcases List.mem_append.mp hd with hd | hd
      · exact hchars d ((List.takeWhile_prefix _).subset hd)
      · exact isIdentifierChar_of_mem_joinSegments
          (fun e he => hchars e ((List.dropWhile_suffix _).subset he)) hd
    -- leading underscores stay in front; otherwise the first character is put in upper case
    by_cases hunderscore : c = '_'
    · subst hunderscore
      exact { ne_nil := by simp, chars := by simpa using hmem, head := by simp }
    · obtain ⟨-, hlower, hdigit⟩ := isIdentifierChar_toUpper hc
      have hstart : (c :: cs).takeWhile (· = '_') ++
          joinSegments true ((c :: cs).dropWhile (· = '_')) =
            c.toUpper :: joinSegments false cs := by
        simp [hunderscore, joinSegments, uppercase_of_isIdentifierChar hc]
      rw [hstart] at hmem ⊢
      have hcapital : c.toUpper.isDigit = false ∧ c.toUpper.isLower = false :=
        ⟨hdigit (hhead c rfl), hlower⟩
      refine { ne_nil := by simp, chars := by simpa using hmem, head := fun d hd => ?_ }
      rw [String.toList_ofList, List.head?_cons] at hd
      rwa [← Option.mem_some.mp hd]

end Relata
