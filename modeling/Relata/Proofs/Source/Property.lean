import Relata.Identifier
import Relata.Proofs.Language.Expression
import Relata.Proofs.Source.Literal

/-!
# Properties of object literals read back

Readers for literals and for the properties of an object literal, as a program that loads the
generated module sees them. A literal is read up to its end, whatever follows it. A key in brackets
is computed; a plain `__proto__` sets the prototype of the object and is the key of no property.

## Main definitions

* `readString`, `readNames` — a string literal and a list of them.
* `readKey` — the key of a property.
* `listProperty?` — the property on a line whose value is a list of strings.

## Main results

* `readString_append`, `readNames_append` — **literals are read back.**
* `readKey_propertyKey`, `readKey_word` — keys are read back.
* `listProperty?_entry`, `listProperty?_propertyKey` — a property is read off its line.
-/

namespace Relata.Source

open Relata.Language

/-! ### Readers -/

/-- Reads a string literal. -/
def readString : Parser String
  | '"' :: cs =>
    let lit := Json.scanString 1 cs
    match lit.value, lit.next with
    | .ok s, .ok c => some (s, c.rest)
    | _, _ => none
  | _ => none

/-- Reads a list of string literals. -/
def readNames : Parser (List String) := fun s => do
  let rest ← expect ['['] s
  let (names, rest) := optionally (separated (expect [',', ' ']) readString) rest
  let rest ← expect [']'] rest
  return (names.getD [], rest)

/-- Reads a word of code. -/
def readWord : Parser String := fun s => do
  let (cs, rest) ← chars₁ isIdentifierChar s
  return (String.ofList cs, rest)

/-- Reads a key in brackets. -/
def computedKey : Parser String := fun s => do
  let rest ← expect ['['] s
  let (key, rest) ← readString rest
  let rest ← expect [']'] rest
  return (key, rest)

/-- Reads a key that is a string literal or a word. -/
def plainKey : Parser String := fun s => do
  let (key, rest) ← orElse readString readWord s
  if key = "__proto__" then none else some (key, rest)

/-- Reads the key of a property. -/
def readKey : Parser String := orElse computedKey plainKey

/-- The property on a line: its key, and the strings of its value. -/
def listProperty? (line : List Char) : Option (String × List String) := do
  let (key, rest) ← readKey (spaces line)
  let rest ← expect [':', ' '] rest
  let (names, rest) ← readNames rest
  if rest = [','] then some (key, names) else none

/-! ### Literals -/

/-- A string literal is read back. -/
theorem readString_append (s : String) (rest : List Char) :
    readString ((stringLiteral s).toList ++ rest) = some (s, rest) := by
  obtain ⟨parts, stop, hscan, hvalues⟩ := Json.scanString_append 1 s.toList rest
  have htext : (stringLiteral s).toList ++ rest =
      '"' :: (s.toList.flatMap Json.stringChar ++ '"' :: rest) := by
    simp [Json.stringText]
  rw [htext, readString]
  simp only [hscan, Json.StringLiteral.value, hvalues, String.ofList_toList]

/-- What starts with no quote is no string literal. -/
theorem readString_eq_none {s : List Char} (h : s.head? ≠ some '"') : readString s = none := by
  cases s with
  | nil => rfl
  | cons c s =>
    rw [readString]
    exact fun cs heq => h (congrArg List.head? heq)

theorem toList_listTail_cons (name : String) (names : List String) (rest : List Char) :
    (listTail (name :: names)).toList ++ rest =
      [',', ' '] ++ ((stringLiteral name).toList ++ ((listTail names).toList ++ rest)) := by
  simp [listTail]

/-- The elements behind the first one are read back. -/
theorem many_listTail (names : List String) (rest : List Char) :
    many (fun t => (expect [',', ' '] t).bind readString) ((listTail names).toList ++ rest) =
      (names, ']' :: rest) := by
  induction names with
  | nil => exact many_eq_nil rfl
  | cons name names ih =>
    rw [toList_listTail_cons]
    have hstep : (expect [',', ' '] ([',', ' '] ++ ((stringLiteral name).toList ++
        ((listTail names).toList ++ rest)))).bind readString =
          some (name, (listTail names).toList ++ rest) := by
      rw [expect_append, Option.bind_some, readString_append]
    have hlt : ((listTail names).toList ++ rest).length < ([',', ' '] ++
        ((stringLiteral name).toList ++ ((listTail names).toList ++ rest))).length := by
      simp only [List.length_append, List.length_cons]
      omega
    rw [many_eq_cons (p := fun t => (expect [',', ' '] t).bind readString) hstep hlt, ih]

/-- A list of string literals is read back. -/
theorem readNames_append (names : List String) (rest : List Char) :
    readNames ((stringList names).toList ++ rest) = some (names, rest) := by
  cases names with
  | nil =>
    rw [stringList_nil]
    rfl
  | cons name names =>
    have htext : (stringList (name :: names)).toList ++ rest =
        ['['] ++ ((stringLiteral name).toList ++ ((listTail names).toList ++ rest)) := by
      simp [stringList_cons]
    have hnames : separated (expect [',', ' ']) readString
        ((stringLiteral name).toList ++ ((listTail names).toList ++ rest)) =
          some (name :: names, ']' :: rest) := by
      simp only [separated, readString_append, Option.bind_eq_bind, Option.bind_some, many_listTail]
      rfl
    simp only [readNames, htext, expect_append, expect_singleton, Option.bind_eq_bind,
      Option.bind_some, optionally, hnames, Option.getD_some]
    rfl

/-! ### Keys -/

theorem plainKey_eq {s rest : List Char} {key : String}
    (h : orElse readString readWord s = some (key, rest)) (hproto : key ≠ "__proto__") :
    plainKey s = some (key, rest) := by
  simp only [plainKey, h, Option.bind_eq_bind, Option.bind_some, if_neg hproto]

theorem computedKey_append (name : String) (rest : List Char) :
    computedKey (['['] ++ ((stringLiteral name).toList ++ ([']'] ++ rest))) =
      some (name, rest) := by
  simp only [computedKey, expect_append, readString_append, Option.bind_eq_bind, Option.bind_some]
  rfl

theorem computedKey_eq_none {s : List Char} (h : s.head? ≠ some '[') : computedKey s = none := by
  have hbracket : expect ['['] s = none := expect_eq_none fun c hc hcb => h (hcb ▸ hc)
  rw [computedKey, hbracket]
  rfl

/-- The key of a quoted name. -/
theorem propertyKey_stringLiteral (name : String) : propertyKey (stringLiteral name) =
    if name = "__proto__" then "[\"__proto__\"]" else stringLiteral name := by
  by_cases hproto : name = "__proto__"
  · subst hproto
    rfl
  · have hword : stringLiteral name ≠ "__proto__" := by
      intro heq
      have hhead := congrArg (·.toList.head?) heq
      simp [Json.stringText] at hhead
    have hliteral : stringLiteral name ≠ "\"__proto__\"" := by
      intro heq
      have hquoted : stringLiteral "__proto__" = "\"__proto__\"" := by decide
      have hsame : stringLiteral name ++ "" = stringLiteral "__proto__" ++ "" :=
        congrArg (· ++ "") (heq.trans hquoted.symm)
      exact hproto (stringLiteral_append_inj hsame).1
    simp [propertyKey, hword, hliteral, hproto]

theorem computedKey_stringLiteral (name : String) (rest : List Char) :
    computedKey ((stringLiteral name).toList ++ rest) = none := by
  refine computedKey_eq_none ?_
  rw [toList_stringLiteral, Json.stringText, List.cons_append, List.cons_append, List.head?_cons]
  decide

theorem computedKey_proto (rest : List Char) :
    computedKey ("[\"__proto__\"]".toList ++ rest) = some ("__proto__", rest) := by
  have htext : "[\"__proto__\"]".toList ++ rest =
      ['['] ++ ((stringLiteral "__proto__").toList ++ ([']'] ++ rest)) := rfl
  rw [htext, computedKey_append]

/-- A written string literal is read back from a key, also where it would set a prototype. -/
theorem readKey_propertyKey (name : String) (rest : List Char) :
    readKey ((propertyKey (stringLiteral name)).toList ++ rest) = some (name, rest) := by
  rw [propertyKey_stringLiteral]
  split
  · next hproto => rw [readKey, orElse, computedKey_proto, Option.some_or, hproto]
  · next hproto =>
    have hstring : orElse readString readWord ((stringLiteral name).toList ++ rest) =
        some (name, rest) := by
      rw [orElse, readString_append, Option.some_or]
    rw [readKey, orElse, computedKey_stringLiteral, Option.none_or, plainKey_eq hstring hproto]

/-- What starts with a word starts with no other character. -/
theorem head?_append_ne {cs : List Char} (hne : cs ≠ []) (h : ∀ c ∈ cs, isIdentifierChar c = true)
    {c : Char} (hc : isIdentifierChar c = false) (rest : List Char) :
    (cs ++ rest).head? ≠ some c := by
  obtain ⟨d, ds, rfl⟩ := List.exists_cons_of_ne_nil hne
  intro heq
  rw [List.cons_append, List.head?_cons, Option.some.injEq] at heq
  rw [← heq, h d List.mem_cons_self] at hc
  cases hc

/-- A word is read as far as the characters of identifiers go. -/
theorem readWord_append {cs rest : List Char} (hne : cs ≠ [])
    (h : ∀ c ∈ cs, isIdentifierChar c = true)
    (hrest : ∀ c ∈ rest.head?, isIdentifierChar c = false) :
    readWord (cs ++ rest) = some (String.ofList cs, rest) := by
  rw [readWord, chars₁_append hne h hrest]
  rfl

/-- A word is read back from a key. -/
theorem readKey_word {cs rest : List Char} (hne : cs ≠ []) (h : ∀ c ∈ cs, isIdentifierChar c = true)
    (hproto : String.ofList cs ≠ "__proto__")
    (hrest : ∀ c ∈ rest.head?, isIdentifierChar c = false) :
    readKey (cs ++ rest) = some (String.ofList cs, rest) := by
  -- the word starts neither like a literal nor like a computed key
  have hhead : ∀ c, isIdentifierChar c = false → (cs ++ rest).head? ≠ some c :=
    fun c hc => head?_append_ne hne h hc rest
  have hword : orElse readString readWord (cs ++ rest) = some (String.ofList cs, rest) := by
    rw [orElse, readString_eq_none (hhead '"' (by decide)), Option.none_or,
      readWord_append hne h hrest]
  rw [readKey, orElse, computedKey_eq_none (hhead '[' (by decide)), Option.none_or,
    plainKey_eq hword hproto]

/-! ### Lines -/

/-- A property is read off its line. -/
theorem listProperty?_entry {key name : String} (names : List String)
    (h : ∀ rest, readKey (key.toList ++ ':' :: rest) = some (name, ':' :: rest))
    (hkey : ∀ c ∈ key.toList.head?, isSpace c = false) :
    listProperty? ("  " ++ (key ++ (": " ++ (stringList names ++ ",")))).toList =
      some (name, names) := by
  have htext : ("  " ++ (key ++ (": " ++ (stringList names ++ ",")))).toList =
      [' ', ' '] ++ (key.toList ++ ([':', ' '] ++ ((stringList names).toList ++ [',']))) := by
    simp
  have hspaces : spaces ([' ', ' '] ++ (key.toList ++ ([':', ' '] ++
      ((stringList names).toList ++ [','])))) =
        key.toList ++ ([':', ' '] ++ ((stringList names).toList ++ [','])) := by
    rw [spaces_append (by decide), spaces_eq_self]
    cases hcs : key.toList with
    | nil =>
      rintro _ ⟨⟩
      decide
    | cons d ds => exact fun c hc => hkey c (hcs ▸ hc)
  have hread : readKey (key.toList ++ ([':', ' '] ++ ((stringList names).toList ++ [',']))) =
      some (name, [':', ' '] ++ ((stringList names).toList ++ [','])) := h _
  simp only [listProperty?, htext, hspaces, hread, expect_append, readNames_append,
    Option.bind_eq_bind, Option.bind_some, if_true]

/-- A property with a quoted or computed key is read off its line. -/
theorem listProperty?_propertyKey (name : String) (names : List String) :
    listProperty? ("  " ++ (propertyKey (stringLiteral name) ++ (": " ++ (stringList names ++
      ",")))).toList = some (name, names) := by
  refine listProperty?_entry names (fun rest => readKey_propertyKey name _) ?_
  unfold propertyKey
  split
  · rintro _ ⟨⟩
    decide
  · rw [toList_stringLiteral]
    rintro _ ⟨⟩
    decide

end Relata.Source
