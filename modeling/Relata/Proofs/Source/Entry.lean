import Relata.Proofs.Identifier
import Relata.Proofs.Source.Property

/-!
# Entries of a declaration read back

Readers for the lines of a generated module that list something: the entries of an object literal or
an interface, the members of a union, and the declaration of a type without values. A key is read
with the form in which it is written, for `__proto__` is a key of an interface like any other, but
must be in brackets to be the key of a property.

## Main definitions

* `KeyedEntry`, `entryOf?` — the entry on a line.
* `Member`, `member?` — the member of a union on a line.
* `neverType?` — the type without values that a line declares.
* `IsKey` — a text is read as a key, whatever follows it.

## Main results

* `isKey_stringLiteral`, `isKey_propertyKey`, `isKey_identifier` — the keys that are written.
* `IsKey.entryOf?_text`, `member?_text`, `neverType?_append` — **entries, members and types without
  values are read off their lines.**
-/

namespace Relata.Source

open Relata.Language

/-! ### Readers -/

/-- How a key is written: as a word, as a string literal, or in brackets. -/
inductive KeyForm
  | word
  | quoted
  | computed
  deriving DecidableEq, Repr

/-- The form of a key of an object literal: the one that would set the prototype is computed. -/
def KeyForm.own (form : KeyForm) (key : String) : KeyForm :=
  if key = "__proto__" then .computed else form

/-- An entry: its key, and the text of its value. -/
structure KeyedEntry where
  form : KeyForm
  key : String
  value : String
  deriving DecidableEq, Repr

/-- Reads a key and its form. -/
def formedKey : Parser (KeyForm × String) := fun s =>
  ((computedKey s).map fun r => ((KeyForm.computed, r.1), r.2)).or
    (((readString s).map fun r => ((KeyForm.quoted, r.1), r.2)).or
      ((readWord s).map fun r => ((KeyForm.word, r.1), r.2)))

/-- The entry on a line that ends in a mark. -/
def entryOf? (mark : Char) (line : List Char) : Option KeyedEntry := do
  let (key, rest) ← formedKey (spaces line)
  let rest ← expect [':', ' '] rest
  if rest.getLast? = some mark then some ⟨key.1, key.2, String.ofList rest.dropLast⟩ else none

/-- A member of a union, and whether the declaration ends behind it. -/
structure Member where
  name : String
  isLast : Bool
  deriving DecidableEq, Repr

/-- The member of a union on a line. -/
def member? (line : List Char) : Option Member := do
  let rest ← expect ['|', ' '] (spaces line)
  let (name, rest) ← readWord rest
  if rest = [] then some ⟨name, false⟩ else if rest = [';'] then some ⟨name, true⟩ else none

/-- The type that a line declares to have no values. -/
def neverType? (line : List Char) : Option String := do
  let rest ← expect ['e', 'x', 'p', 'o', 'r', 't', ' ', 't', 'y', 'p', 'e', ' '] line
  let (name, rest) ← readWord rest
  if rest = [' ', '=', ' ', 'n', 'e', 'v', 'e', 'r', ';'] then some name else none

/-! ### Keys -/

/-- A text is read as a key in a form, whatever follows it. -/
structure IsKey (text : String) (form : KeyForm) (key : String) : Prop where
  reads : ∀ rest, formedKey (text.toList ++ ':' :: rest) = some ((form, key), ':' :: rest)
  start : ∀ c ∈ text.toList.head?, isSpace c = false

/-- The key of an interface for a quoted name. -/
theorem isKey_stringLiteral (name : String) : IsKey (stringLiteral name) .quoted name where
  reads := by
    intro rest
    rw [formedKey, computedKey_stringLiteral, readString_append]
    rfl
  start := by
    rw [toList_stringLiteral]
    rintro _ ⟨⟩
    decide

theorem isKey_proto : IsKey "[\"__proto__\"]" .computed "__proto__" where
  reads := by
    intro rest
    rw [formedKey, computedKey_proto]
    rfl
  start := by
    rintro _ ⟨⟩
    decide

/-- The key of an object literal for a quoted name. -/
theorem isKey_propertyKey (name : String) :
    IsKey (propertyKey (stringLiteral name)) (KeyForm.quoted.own name) name := by
  rw [propertyKey_stringLiteral, KeyForm.own]
  by_cases hproto : name = "__proto__"
  · rw [if_pos hproto, if_pos hproto, hproto]
    exact isKey_proto
  · rw [if_neg hproto, if_neg hproto]
    exact isKey_stringLiteral name

theorem isSpace_of_isIdentifierChar {c : Char} (h : isIdentifierChar c = true) :
    isSpace c = false := by
  rw [← Bool.not_eq_true]
  intro hspace
  simp only [isSpace, Bool.or_eq_true, decide_eq_true_eq] at hspace
  rcases hspace with rfl | rfl
  · exact absurd h (by decide)
  · exact absurd h (by decide)

theorem isKey_word {s : String} (hne : s.toList ≠ [])
    (h : ∀ c ∈ s.toList, isIdentifierChar c = true) : IsKey s .word s where
  reads := by
    intro rest
    -- the word starts neither like a computed key nor like a literal
    have hbracket := head?_append_ne hne h (by decide : isIdentifierChar '[' = false) (':' :: rest)
    have hquote := head?_append_ne hne h (by decide : isIdentifierChar '"' = false) (':' :: rest)
    have hword : readWord (s.toList ++ ':' :: rest) = some (s, ':' :: rest) := by
      rw [readWord_append hne h (by rintro _ ⟨⟩; decide), String.ofList_toList]
    rw [formedKey, computedKey_eq_none hbracket, readString_eq_none hquote, hword]
    rfl
  start := fun c hc => isSpace_of_isIdentifierChar (h c (List.mem_of_mem_head? hc))

/-- The key of an object literal for an identifier. -/
theorem isKey_identifier {s : String} (h : IsIdentifier s) :
    IsKey (propertyKey s) (KeyForm.word.own s) s := by
  have hquoted : s ≠ "\"__proto__\"" := by
    rintro rfl
    exact absurd (h.chars '"' (by decide)) (by decide)
  by_cases hproto : s = "__proto__"
  · subst hproto
    exact isKey_proto
  · have hkey : propertyKey s = s := by simp [propertyKey, hproto, hquoted]
    rw [hkey, KeyForm.own, if_neg hproto]
    exact isKey_word h.ne_nil h.chars

/-! ### Lines -/

/-- The blanks in front of a line are skipped. -/
theorem spaces_text {l : Line} (hne : l.content.toList ≠ [])
    (hstart : ∀ c ∈ l.content.toList.head?, isSpace c = false) :
    spaces l.text.toList = l.content.toList := by
  have hcontent : l.content ≠ "" := by
    intro hempty
    exact hne (congrArg String.toList hempty)
  have hblanks : Blanks (List.replicate (2 * l.depth) ' ') := by
    intro d hd
    rw [List.eq_of_mem_replicate hd]
    decide
  rw [Line.toList_text hcontent, spaces_append hblanks, spaces_eq_self hstart]

/-- An entry is read off its line. -/
theorem IsKey.entryOf?_text {text key value : String} {form : KeyForm} (h : IsKey text form key)
    {l : Line} {mark : Char}
    (hcontent : l.content.toList = text.toList ++ ([':', ' '] ++ (value.toList ++ [mark]))) :
    entryOf? mark l.text.toList = some ⟨form, key, value⟩ := by
  have hspaces : spaces l.text.toList = l.content.toList := by
    apply spaces_text
    · simp [hcontent]
    · rw [hcontent]
      cases htext : text.toList with
      | nil =>
        rintro _ ⟨⟩
        decide
      | cons c cs =>
        intro d hd
        exact h.start d (htext ▸ hd)
  have hread : formedKey (text.toList ++ ([':', ' '] ++ (value.toList ++ [mark]))) =
      some ((form, key), [':', ' '] ++ (value.toList ++ [mark])) := h.reads _
  simp only [entryOf?, hspaces, hcontent, hread, expect_append, Option.bind_eq_bind,
    Option.bind_some, List.getLast?_append, List.getLast?_singleton, Option.some_or, if_true,
    List.dropLast_concat, String.ofList_toList]

/-- A member of a union is read off its line. -/
theorem member?_text {name : String} (hne : name.toList ≠ [])
    (h : ∀ c ∈ name.toList, isIdentifierChar c = true) {l : Line} {isLast : Bool}
    (hcontent : l.content.toList =
      ['|', ' '] ++ (name.toList ++ if isLast then [';'] else [])) :
    member? l.text.toList = some ⟨name, isLast⟩ := by
  have hspaces : spaces l.text.toList = l.content.toList := by
    apply spaces_text
    · simp [hcontent]
    · rw [hcontent]
      rintro _ ⟨⟩
      decide
  have hend : ∀ c ∈ (if isLast then [';'] else []).head?, isIdentifierChar c = false := by
    cases isLast
    · rintro _ ⟨⟩
    · rintro _ ⟨⟩
      decide
  have hword := readWord_append hne h hend
  rw [String.ofList_toList] at hword
  simp only [member?, hspaces, hcontent, expect_append, hword, Option.bind_eq_bind,
    Option.bind_some]
  cases isLast <;> rfl

/-! ### Types without values -/

theorem neverType?_ofList (cs : List Char) :
    neverType? (String.ofList cs).toList = neverType? cs := by
  rw [String.toList_ofList]

/-- A line whose start tells that it declares no type without values. -/
theorem neverType?_ofList_append {cs : List Char} {rest : String}
    (h : ∀ s, neverType? (cs ++ s) = none) :
    neverType? (String.ofList cs ++ rest).toList = none := by
  rw [String.toList_append, String.toList_ofList]
  exact h rest.toList

/-- What follows the name tells whether a type has values. -/
theorem neverType?_append {name rest : String} (hne : name.toList ≠ [])
    (h : ∀ c ∈ name.toList, isIdentifierChar c = true)
    (hrest : ∀ c ∈ rest.toList.head?, isIdentifierChar c = false) :
    neverType? ("export type " ++ (name ++ rest)).toList =
      if rest.toList = [' ', '=', ' ', 'n', 'e', 'v', 'e', 'r', ';'] then some name else none := by
  have hword := readWord_append hne h hrest
  rw [String.ofList_toList] at hword
  have htext : ("export type " ++ (name ++ rest)).toList =
      ['e', 'x', 'p', 'o', 'r', 't', ' ', 't', 'y', 'p', 'e', ' '] ++
        (name.toList ++ rest.toList) := by
    simp
  simp only [neverType?, htext, expect_append, hword, Option.bind_eq_bind, Option.bind_some]

/-- A line that starts with another letter declares no type. -/
theorem neverType?_eq_none {line : List Char} (h : line.head? ≠ some 'e') :
    neverType? line = none := by
  rw [neverType?, expect_eq_none]
  · rfl
  · rintro c hc rfl
    exact h hc

/-- Lines further in declare no type. -/
theorem neverType?_deeper (l : Line) : neverType? l.deeper.text.toList = none := by
  apply neverType?_eq_none
  by_cases h : l.content = ""
  · simp [Line.text, h]
  · simp [Line.head?_text_deeper h]

end Relata.Source
