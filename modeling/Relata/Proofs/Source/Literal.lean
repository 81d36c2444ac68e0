import Relata.Proofs.Json.Literal
import Relata.Proofs.Source.Line
import Relata.Source.Literal
import Relata.Text.Quoted

/-!
# Literals of the generated module read back

A literal tells its text and where it ends, and neither literals nor texts in comments end a line.

## Main results

* `stringLiteral_append_inj`, `stringList_append_inj` — two texts that start with literals agree
  literal by literal.
* `isOneLine_stringLiteral`, `isOneLine_stringList`, `isOneLine_commentText` — they hold no line
  ends.
* `isPrintable_of_mem_commentText` — a text in a comment holds only characters that print.
-/

namespace Relata.Source

/-! ### String literals -/

@[simp] theorem toList_stringLiteral (s : String) :
    (stringLiteral s).toList = Json.stringText s.toList := by
  simp [stringLiteral]

theorem isOneLine_of_le {s : String} (h : ∀ c ∈ s.toList, 0x20 ≤ c.toNat) : IsOneLine s := by
  intro c hc
  have hle := h c hc
  constructor
  · rintro rfl
    exact absurd hle (by decide)
  · rintro rfl
    exact absurd hle (by decide)

@[simp] theorem isOneLine_stringLiteral (s : String) : IsOneLine (stringLiteral s) :=
  isOneLine_of_le fun c hc => Json.le_toNat_of_mem_stringText (by simpa using hc)

/-- Two texts that start with string literals agree literal by literal. -/
theorem stringLiteral_append_inj {s s' rest rest' : String}
    (h : stringLiteral s ++ rest = stringLiteral s' ++ rest') : s = s' ∧ rest = rest' := by
  have htexts : Json.stringText s.toList ++ rest.toList =
      Json.stringText s'.toList ++ rest'.toList := by
    simpa using congrArg String.toList h
  obtain ⟨hs, hrest⟩ := Json.stringText_append_inj htexts
  exact ⟨String.toList_inj.mp hs, String.toList_inj.mp hrest⟩

/-! ### Lists of strings -/

/-- What stands behind the first element of a list literal. -/
def listTail : List String → String
  | [] => "]"
  | name :: names => ", " ++ stringLiteral name ++ listTail names

theorem stringList_nil : stringList [] = "[]" := by simp [stringList]

theorem stringList_cons (name : String) (names : List String) :
    stringList (name :: names) = "[" ++ stringLiteral name ++ listTail names := by
  simp only [stringList, String.append_assoc, String.append_right_inj]
  induction names generalizing name with
  | nil => simp [listTail]
  | cons n ns ih =>
    rw [List.map_cons, List.map_cons, String.intercalate_cons_cons, String.append_assoc,
      ← List.map_cons, ih n, listTail]
    simp only [String.append_assoc]

theorem isOneLine_listTail (names : List String) : IsOneLine (listTail names) := by
  induction names with
  | nil => exact isOneLine_ofList rfl
  | cons name names ih =>
    rw [listTail, isOneLine_append, isOneLine_append]
    exact ⟨⟨isOneLine_ofList rfl, isOneLine_stringLiteral name⟩, ih⟩

@[simp] theorem isOneLine_stringList (names : List String) : IsOneLine (stringList names) := by
  cases names with
  | nil => exact stringList_nil ▸ isOneLine_ofList rfl
  | cons name names =>
    rw [stringList_cons, isOneLine_append, isOneLine_append]
    exact ⟨⟨isOneLine_ofList rfl, isOneLine_stringLiteral name⟩, isOneLine_listTail names⟩

theorem listTail_append_inj {names names' : List String} {rest rest' : String}
    (h : listTail names ++ rest = listTail names' ++ rest') : names = names' ∧ rest = rest' := by
  induction names generalizing names' with
  | nil =>
    cases names' with
    | nil => exact ⟨rfl, (String.append_right_inj "]").mp h⟩
    | cons name' names' =>
      have hhead := congrArg (·.toList.head?) h
      simp [listTail] at hhead
  | cons name names ih =>
    cases names' with
    | nil =>
      have hhead := congrArg (·.toList.head?) h
      simp [listTail] at hhead
    | cons name' names' =>
      simp only [listTail, String.append_assoc, String.append_right_inj] at h
      obtain ⟨rfl, htail⟩ := stringLiteral_append_inj h
      obtain ⟨rfl, hrest⟩ := ih htail
      exact ⟨rfl, hrest⟩

/-- Two texts that start with list literals agree literal by literal. -/
theorem stringList_append_inj {names names' : List String} {rest rest' : String}
    (h : stringList names ++ rest = stringList names' ++ rest') :
    names = names' ∧ rest = rest' := by
  -- behind the opening bracket stands a quote or the closing bracket
  have hsecond : ∀ (name : String) (names : List String) (rest : String),
      (stringList (name :: names) ++ rest).toList[1]? = some '"' := by
    simp [stringList_cons, Json.stringText]
  cases names with
  | nil =>
    cases names' with
    | nil => exact ⟨rfl, (String.append_right_inj _).mp h⟩
    | cons name' names' =>
      have hchar := congrArg (·.toList[1]?) h
      simp only [hsecond] at hchar
      simp [stringList_nil] at hchar
  | cons name names =>
    cases names' with
    | nil =>
      have hchar := congrArg (·.toList[1]?) h
      simp only [hsecond] at hchar
      simp [stringList_nil] at hchar
    | cons name' names' =>
      simp only [stringList_cons, String.append_assoc, String.append_right_inj] at h
      obtain ⟨rfl, htail⟩ := stringLiteral_append_inj h
      obtain ⟨rfl, hrest⟩ := listTail_append_inj htail
      exact ⟨rfl, hrest⟩

/-! ### Keys -/

theorem isOneLine_propertyKey {key : String} (h : IsOneLine key) :
    IsOneLine (propertyKey key) := by
  unfold propertyKey
  split
  · exact isOneLine_ofList rfl
  · exact h

/-! ### Template literals -/

/-- A text without line ends has none inside a template literal either. -/
theorem isOneLine_templateText {s : String} (h : IsOneLine s) : IsOneLine (templateText s) := by
  intro d hd
  simp only [templateText, String.toList_ofList, List.mem_flatMap] at hd
  obtain ⟨c, hc, hd⟩ := hd
  unfold templateChar at hd
  split at hd
  · simp only [List.mem_cons, List.not_mem_nil, or_false] at hd
    rcases hd with rfl | rfl
    · decide
    · exact h d hc
  · rw [List.mem_singleton] at hd
    exact hd ▸ h c hc

/-! ### Comments -/

theorem isPrintable_of_mem_toDigits {n : Nat} {d : Char} (h : d ∈ Nat.toDigits 16 n) :
    Text.isPrintable d = true := by
  have hdigit : ∀ k < 16, Text.isPrintable (Nat.digitChar k) = true := by decide
  induction n using Nat.strongRecOn with
  | ind n ih =>
    rw [Nat.toDigits_eq_if (by decide)] at h
    split at h
    · next hlt =>
      rw [List.mem_singleton] at h
      exact h ▸ hdigit n hlt
    · next hge =>
      rcases List.mem_append.mp h with h | h
      · exact ih (n / 16) (by omega) h
      · rw [List.mem_singleton] at h
        exact h ▸ hdigit _ (Nat.mod_lt n (by decide))

theorem isPrintable_of_mem_codePointEscape {c d : Char} (h : d ∈ Text.codePointEscape c) :
    Text.isPrintable d = true := by
  simp only [Text.codePointEscape, List.mem_append, List.mem_cons, List.not_mem_nil,
    or_false] at h
  rcases h with ((rfl | rfl | rfl) | h) | rfl
  · decide
  · decide
  · decide
  · exact isPrintable_of_mem_toDigits h
  · decide

/-- What is written for a character prints. -/
theorem isPrintable_of_mem_escapeChar {style : Text.EscapeStyle} {lone : Bool} {c d : Char}
    (h : d ∈ style.char lone c) : Text.isPrintable d = true := by
  -- a character is written as two, as itself, or by its code point
  have hpair : ∀ {e : Char}, Text.isPrintable e = true → d ∈ ['\\', e] →
      Text.isPrintable d = true := by
    intro e he hd
    simp only [List.mem_cons, List.not_mem_nil, or_false] at hd
    rcases hd with rfl | rfl
    · decide
    · exact he
  have hself : ∀ {e : Char}, Text.isPrintable e = true → d ∈ [e] → Text.isPrintable d = true :=
    fun he hd => List.mem_singleton.mp hd ▸ he
  unfold Text.EscapeStyle.char at h
  split at h
  · exact hpair (by decide) h
  split at h
  · exact hpair (by decide) h
  split at h
  · exact hpair (by decide) h
  split at h
  · exact hpair (by decide) h
  split at h
  · next hquote =>
    have hc : Text.isPrintable c = true := by
      simp only [Bool.or_eq_true, decide_eq_true_eq] at hquote
      rcases hquote with rfl | rfl <;> decide
    exact hpair hc h
  split at h
  · next hapostrophe =>
    subst hapostrophe
    split at h
    · exact hpair (by decide) h
    · exact hself (by decide) h
  split at h
  · exact isPrintable_of_mem_codePointEscape h
  split at h
  · next hprintable => exact hself hprintable h
  · exact isPrintable_of_mem_codePointEscape h

/-- A text in a comment holds only characters that print. -/
theorem isPrintable_of_mem_commentText {s : String} {d : Char}
    (h : d ∈ (Text.commentText s).toList) : Text.isPrintable d = true := by
  rw [Text.commentText, String.toList_ofList] at h
  cases hs : s.toList with
  | nil => simp [hs, Text.EscapeStyle.text] at h
  | cons c cs =>
    rw [hs, Text.EscapeStyle.text, List.mem_append, List.mem_flatMap] at h
    rcases h with h | ⟨e, -, h⟩
    · exact isPrintable_of_mem_escapeChar h
    · exact isPrintable_of_mem_escapeChar h

@[simp] theorem isOneLine_commentText (s : String) : IsOneLine (Text.commentText s) := by
  intro d hd
  have hprintable := isPrintable_of_mem_commentText hd
  constructor
  · rintro rfl
    exact absurd hprintable (by decide)
  · rintro rfl
    exact absurd hprintable (by decide)

end Relata.Source
