import Relata.Proofs.Source.Property

/-!
# Quotations of the generated language

How a program that loads the generated module reads a string literal, a list of them and a template
literal. In a quotation a backslash starts an escape, which strings and templates share. A string
ends at its quote and reaches over no line end; a template ends at its backquote and reaches over
lines, whose ends all count as line feeds, and a dollar sign with an opening brace starts a
substitution. An escape that stands for half a surrogate pair is not read, as it is no character.

What is quoted starts and ends nothing: every character of the written literal is one of the text or
part of its escape.

## Main definitions

* `escapeSequence` — what stands behind a backslash.
* `quotation`, `listOfQuotations` — a string literal and a list of them.
* `Template`, `template` — the parts of a template literal.

## Main results

* `quotation_append`, `listOfQuotations_append` — string literals are read back.
* `template_append` — a template with one substitution behind its text is read back.
* `literals_append` — **literals are read back wherever they stand.**
-/

namespace Relata.Source

open Relata.Language

/-! ### Escapes -/

/-- The letters that stand for a control character behind a backslash. -/
def letterEscapes : List (Char × Char) :=
  [('b', '\x08'), ('f', '\x0c'), ('n', '\n'), ('r', '\r'), ('t', '\t'), ('v', '\x0b')]

/-- The character of a code point, if it is no half of a surrogate pair. -/
def codePoint? (n : Nat) : Option Char := if n.isValidChar then some (Char.ofNat n) else none

/-- Reads two hexadecimal digits. -/
def hexEscape : Parser (List Char)
  | a :: b :: s => ((Text.hexNumber? [a, b]).bind codePoint?).map fun c => ([c], s)
  | _ => none

/-- Reads hexadecimal digits in braces. -/
def bracedEscape : Parser (List Char) := fun s => do
  let (ds, rest) ← chars₁ (· ≠ '\x7d') s
  let rest ← expect ['\x7d'] rest
  let c ← (Text.hexNumber? ds).bind codePoint?
  return ([c], rest)

/-- Reads four hexadecimal digits. -/
def unitEscape : Parser (List Char)
  | a :: b :: c :: d :: s => ((Json.hexUnit? a b c d).bind codePoint?).map fun e => ([e], s)
  | _ => none

/-- Reads what stands behind a backslash: the characters that it stands for. A line end that is
escaped stands for none, and what has no meaning of its own stands for itself. -/
def escapeSequence : Parser (List Char)
  | [] => none
  | c :: s =>
    match letterEscapes.lookup c with
    | some d => some ([d], s)
    | none =>
      if c = 'x' then hexEscape s
      else if c = 'u' then ((expect ['\x7b'] s).bind bracedEscape).or (unitEscape s)
      else if c.isDigit then
        if c = '0' && !(s.head?.any Char.isDigit) then some (['\x00'], s) else none
      else if c = '\r' then some ([], (expect ['\n'] s).getD s)
      else if c = '\n' || c = '\u2028' || c = '\u2029' then some ([], s)
      else some ([c], s)

/-! ### String literals -/

/-- Reads a character of a string literal. -/
def quotedCharacter : Parser (List Char)
  | [] => none
  | c :: s =>
    if c = '\\' then escapeSequence s
    else if c = '"' || c = '\n' || c = '\r' then none
    else some ([c], s)

/-- Reads a string literal. -/
def quotation : Parser String := fun s => do
  let rest ← expect ['"'] s
  let (parts, rest) := many quotedCharacter rest
  let rest ← expect ['"'] rest
  return (String.ofList parts.flatten, rest)

/-- Skips blanks and line ends. -/
def blanks (s : List Char) : List Char := s.dropWhile isSpacing

/-- Reads a comma with what may stand around it. -/
def listComma (s : List Char) : Option (List Char) := (expect [','] (blanks s)).map blanks

/-- Reads a list of string literals. -/
def listOfQuotations : Parser (List String) := fun s => do
  let rest ← expect ['['] s
  let (names, rest) := optionally (separated listComma quotation) (blanks rest)
  let rest ← expect [']'] (blanks rest)
  return (names.getD [], rest)

/-! ### Template literals -/

/-- A template literal: its text up to the first substitution, then each substitution with the text
behind it. -/
structure Template where
  head : String
  spans : List (String × String)
  deriving DecidableEq, Repr

/-- Reads a character of the text of a template. -/
def templateCharacter : Parser (List Char)
  | [] => none
  | c :: s =>
    if c = '\\' then escapeSequence s
    else if c = '\x60' then none
    else if c = '$' && s.head? = some '\x7b' then none
    else if c = '\r' then some (['\n'], (expect ['\n'] s).getD s)
    else some ([c], s)

/-- Reads a substitution of one word. -/
def substitution : Parser String := fun s => do
  let rest ← expect ['$', '\x7b'] s
  let (word, rest) ← readWord rest
  let rest ← expect ['\x7d'] rest
  return (word, rest)

/-- Reads a substitution and the text behind it. -/
def templateSpan : Parser (String × String) := fun s => do
  let (word, rest) ← substitution s
  let (parts, rest) := many templateCharacter rest
  return ((word, String.ofList parts.flatten), rest)

/-- Reads a template literal. -/
def template : Parser Template := fun s => do
  let rest ← expect ['\x60'] s
  let (parts, rest) := many templateCharacter rest
  let (spans, rest) := many templateSpan rest
  let rest ← expect ['\x60'] rest
  return (⟨String.ofList parts.flatten, spans⟩, rest)

/-! ### Written characters -/

/-- What is written element by element is read element by element, up to what no element starts
with. -/
theorem many_flatMap {α β : Type} {p : Parser β} {write : α → List Char} {read : α → β}
    {as : List α} {rest : List Char} (hp : ∀ a ∈ as, ∀ s, p (write a ++ s) = some (read a, s))
    (hne : ∀ a ∈ as, write a ≠ []) (hrest : p rest = none) :
    many p (as.flatMap write ++ rest) = (as.map read, rest) := by
  induction as with
  | nil => exact many_eq_nil hrest
  | cons a as ih =>
    rw [List.forall_mem_cons] at hp hne
    have hlt : (as.flatMap write ++ rest).length <
        (write a ++ (as.flatMap write ++ rest)).length := by
      have hpos : 0 < (write a).length := List.length_pos_iff.mpr hne.1
      simp only [List.length_append]
      omega
    rw [List.flatMap_cons, List.append_assoc, many_eq_cons (hp.1 _) hlt, ih hp.2 hne.2,
      List.map_cons]

theorem codePoint?_toNat (c : Char) : codePoint? c.toNat = some c := by
  have hvalid : c.toNat.isValidChar := c.valid
  rw [codePoint?, if_pos hvalid, Char.ofNat_toNat]

/-- Behind the backslash stands a character that has no other meaning there. -/
theorem escapeSequence_self {c : Char} (h : c = '\\' ∨ c = '\x60' ∨ c = '$' ∨ c = '"')
    (s : List Char) : escapeSequence (c :: s) = some ([c], s) := by
  rcases h with rfl | rfl | rfl | rfl <;> rfl

/-- A control character is read back from its four digits. -/
theorem escapeSequence_unit {c : Char} (h : c.toNat < 0x20) (s : List Char) :
    escapeSequence ('u' :: '0' :: '0' :: Json.hexChar (c.toNat / 16) :: Json.hexChar c.toNat :: s) =
      some ([c], s) := by
  have hunit : unitEscape ('0' :: '0' :: Json.hexChar (c.toNat / 16) :: Json.hexChar c.toNat :: s) =
      some ([c], s) := by
    rw [unitEscape, Json.hexUnit?_control h, Option.bind_some, codePoint?_toNat, Option.map_some]
  exact hunit

/-- A character of a string literal is read back. -/
theorem quotedCharacter_stringChar (c : Char) (s : List Char) :
    quotedCharacter (Json.stringChar c ++ s) = some ([c], s) := by
  have hescape : ∀ p ∈ Json.shortEscapes, escapeSequence (p.2 :: s) = some ([p.1], s) := by
    simp only [Json.shortEscapes, List.forall_mem_cons, List.not_mem_nil, false_implies,
      implies_true, and_true]
    and_intros <;> rfl
  have hchar := Json.charText_stringChar c
  generalize Json.stringChar c = cs at hchar ⊢
  cases hchar with
  | short h => exact hescape _ h
  | unit h => exact escapeSequence_unit h s
  | plain hquote hslash h =>
    have hfeed : c ≠ '\n' := by
      rintro rfl
      exact absurd h (by decide)
    have hreturn : c ≠ '\r' := by
      rintro rfl
      exact absurd h (by decide)
    rw [List.singleton_append, quotedCharacter, if_neg hslash,
      if_neg (by simp [hquote, hfeed, hreturn])]

theorem stringChar_ne_nil (c : Char) : Json.stringChar c ≠ [] := by
  have hchar := Json.charText_stringChar c
  generalize Json.stringChar c = cs at hchar ⊢
  cases hchar <;> exact List.cons_ne_nil _ _

/-- A character of a template literal is read back, unless it is a carriage return. -/
theorem templateCharacter_templateChar {c : Char} (h : c ≠ '\r') (s : List Char) :
    templateCharacter (templateChar c ++ s) = some ([c], s) := by
  unfold templateChar
  split
  · next hescaped =>
    simp only [Bool.or_eq_true, decide_eq_true_eq] at hescaped
    exact escapeSequence_self (by tauto) s
  · next hplain =>
    simp only [Bool.or_eq_true, decide_eq_true_eq, not_or] at hplain
    obtain ⟨⟨hslash, hquote⟩, hdollar⟩ := hplain
    rw [List.singleton_append, templateCharacter, if_neg hslash, if_neg hquote,
      if_neg (by simp [hdollar]), if_neg h]

theorem templateChar_ne_nil (c : Char) : templateChar c ≠ [] := by
  unfold templateChar
  split <;> exact List.cons_ne_nil _ _

/-- Characters read one by one are a text. -/
theorem ofList_flatten_map (cs : List Char) :
    String.ofList (cs.map fun c => [c]).flatten = String.ofList cs := by
  rw [← List.flatMap_def, List.flatMap_singleton']

/-! ### Literals -/

theorem toList_stringLiteral_append (v : String) (rest : List Char) :
    (stringLiteral v).toList ++ rest =
      '"' :: (v.toList.flatMap Json.stringChar ++ '"' :: rest) := by
  simp [Json.stringText]

/-- A string literal is read back. -/
theorem quotation_append (v : String) (rest : List Char) :
    quotation ((stringLiteral v).toList ++ rest) = some (v, rest) := by
  have hparts : many quotedCharacter (v.toList.flatMap Json.stringChar ++ '"' :: rest) =
      (v.toList.map fun c => [c], '"' :: rest) :=
    many_flatMap (fun c _ => quotedCharacter_stringChar c) (fun c _ => stringChar_ne_nil c) rfl
  simp only [quotation, toList_stringLiteral_append, expect_singleton, hparts, ofList_flatten_map,
    String.ofList_toList, Option.bind_eq_bind, Option.bind_some, Option.pure_def]

/-- No blank stands in front of a string literal. -/
theorem blanks_stringLiteral (v : String) (rest : List Char) :
    blanks ((stringLiteral v).toList ++ rest) = (stringLiteral v).toList ++ rest := by
  rw [toList_stringLiteral_append]
  rfl

theorem toList_listTail (names : List String) : (listTail names).toList =
    (names.flatMap fun name => [',', ' '] ++ (stringLiteral name).toList) ++ [']'] := by
  induction names with
  | nil => rfl
  | cons name names ih =>
    have hcomma : ", ".toList = [',', ' '] := String.toList_ofList
    simp only [listTail, String.toList_append, ih, hcomma, List.flatMap_cons, List.append_assoc]

/-- What stands between two string literals of a list, and the second of them. -/
theorem listComma_quotation_append (v : String) (rest : List Char) :
    (listComma ([',', ' '] ++ (stringLiteral v).toList ++ rest)).bind quotation =
      some (v, rest) := by
  have hcomma : ∀ s, listComma ([',', ' '] ++ s) = some (blanks s) := fun _ => rfl
  rw [List.append_assoc, hcomma, blanks_stringLiteral, Option.bind_some, quotation_append]

/-- A list of string literals is read back. -/
theorem listOfQuotations_append (names : List String) (rest : List Char) :
    listOfQuotations ((stringList names).toList ++ rest) = some (names, rest) := by
  cases names with
  | nil =>
    rw [stringList_nil]
    rfl
  | cons name names =>
    have htext : (stringList (name :: names)).toList ++ rest =
        '[' :: ((stringLiteral name).toList ++ ((names.flatMap fun name =>
          [',', ' '] ++ (stringLiteral name).toList) ++ ']' :: rest)) := by
      simp [stringList_cons, toList_listTail]
    have hend : (listComma (']' :: rest)).bind quotation = none := rfl
    have htail : many (fun t => (listComma t).bind quotation) ((names.flatMap fun name =>
        [',', ' '] ++ (stringLiteral name).toList) ++ ']' :: rest) =
          (names.map id, ']' :: rest) :=
      many_flatMap (fun n _ => listComma_quotation_append n) (fun _ _ => List.cons_ne_nil _ _) hend
    rw [List.map_id] at htail
    have hnames : separated listComma quotation ((stringLiteral name).toList ++
        ((names.flatMap fun name => [',', ' '] ++ (stringLiteral name).toList) ++ ']' :: rest)) =
          some (name :: names, ']' :: rest) := by
      simp only [separated, quotation_append, Option.bind_eq_bind, Option.bind_some, htail]
      rfl
    simp only [listOfQuotations, htext, expect_singleton, blanks_stringLiteral, optionally, hnames,
      Option.bind_eq_bind, Option.bind_some, Option.getD_some]
    rfl

/-- The text of a template is read up to the substitution behind it. -/
theorem many_templateCharacter {v : String} (h : '\r' ∉ v.toList) (s : List Char) :
    many templateCharacter (v.toList.flatMap templateChar ++ '$' :: '\x7b' :: s) =
      (v.toList.map fun c => [c], '$' :: '\x7b' :: s) :=
  many_flatMap (fun _ hc => templateCharacter_templateChar fun heq => h (heq ▸ hc))
    (fun c _ => templateChar_ne_nil c) rfl

/-- A template with one substitution behind its text is read back. -/
theorem template_append {v : String} (h : '\r' ∉ v.toList) (rest : List Char) :
    template (("\x60" ++ templateText v ++ ":$\x7bstring\x7d\x60").toList ++ rest) =
      some (⟨v ++ ":", [("string", "")]⟩, rest) := by
  have hcolon : (v ++ ":").toList = v.toList ++ [':'] := by
    rw [String.toList_append]
    rfl
  have hend : ":$\x7bstring\x7d\x60".toList =
      [':', '$', '\x7b', 's', 't', 'r', 'i', 'n', 'g', '\x7d', '\x60'] := String.toList_ofList
  -- the colon behind the text is written as it is
  have htext : ("\x60" ++ templateText v ++ ":$\x7bstring\x7d\x60").toList ++ rest =
      '\x60' :: ((v ++ ":").toList.flatMap templateChar ++
        '$' :: '\x7b' :: (['s', 't', 'r', 'i', 'n', 'g'] ++ '\x7d' :: '\x60' :: rest)) := by
    have hopen : "\x60".toList = ['\x60'] := String.toList_ofList
    simp only [hcolon, List.flatMap_append, templateText, String.toList_append, hend, hopen,
      String.toList_ofList, List.append_assoc]
    rfl
  have hreturn : '\r' ∉ (v ++ ":").toList := by
    rw [hcolon, List.mem_append]
    exact not_or.mpr ⟨h, by decide⟩
  have hword : readWord (['s', 't', 'r', 'i', 'n', 'g'] ++ '\x7d' :: '\x60' :: rest) =
      some ("string", '\x7d' :: '\x60' :: rest) :=
    readWord_append (by decide) (by decide) (by rintro _ ⟨⟩; decide)
  have hempty : many templateCharacter ('\x60' :: rest) = ([], '\x60' :: rest) := many_eq_nil rfl
  have hspan : templateSpan ('$' :: '\x7b' :: (['s', 't', 'r', 'i', 'n', 'g'] ++
      '\x7d' :: '\x60' :: rest)) = some (("string", ""), '\x60' :: rest) := by
    have hopening : ∀ s, expect ['$', '\x7b'] ('$' :: '\x7b' :: s) = some s :=
      expect_append ['$', '\x7b']
    simp only [templateSpan, substitution, hopening, hword, expect_singleton, hempty,
      Option.bind_eq_bind, Option.bind_some, Option.pure_def]
    rfl
  have hspans : many templateSpan ('$' :: '\x7b' :: (['s', 't', 'r', 'i', 'n', 'g'] ++
      '\x7d' :: '\x60' :: rest)) = ([("string", "")], '\x60' :: rest) := by
    rw [many_eq_cons hspan (by simp), many_eq_nil rfl]
  simp only [template, htext, expect_singleton, many_templateCharacter hreturn, hspans,
    ofList_flatten_map, String.ofList_toList, Option.bind_eq_bind, Option.bind_some,
    Option.pure_def]

/-- **Literals are read back wherever they stand.** A string literal and a list of them are read up
to their own ends, whatever follows, and a string literal holds no raw control character, U+0000 to
U+001F as JSON has them. A template is read as its text and the one substitution behind it: no
backquote of the text ends it and no dollar sign of the text starts another. -/
theorem literals_append :
    (∀ (v : String) (rest : List Char),
        quotation ((stringLiteral v).toList ++ rest) = some (v, rest)) ∧
      (∀ v : String, ∀ c ∈ (stringLiteral v).toList, 0x20 ≤ c.toNat) ∧
      (∀ (names : List String) (rest : List Char),
        listOfQuotations ((stringList names).toList ++ rest) = some (names, rest)) ∧
      ∀ (v : String) (rest : List Char), '\r' ∉ v.toList →
        template (("\x60" ++ templateText v ++ ":$\x7bstring\x7d\x60").toList ++ rest) =
          some (⟨v ++ ":", [("string", "")]⟩, rest) := by
  and_intros
  · exact quotation_append
  · intro v c hc
    rw [toList_stringLiteral] at hc
    exact Json.le_toNat_of_mem_stringText hc
  · exact listOfQuotations_append
  · intro v rest h
    exact template_append h rest

theorem literals_append_quotes :
    quotation ((stringLiteral "\\\"\n").toList ++ ['"', '\\', '"']) =
        some ("\\\"\n", ['"', '\\', '"']) ∧
      '\r' ∉ "\\\x60$\x7b".toList ∧
      template (("\x60" ++ templateText "\\\x60$\x7b" ++ ":$\x7bstring\x7d\x60").toList ++
        [';', '\x60']) = some (⟨"\\\x60$\x7b" ++ ":", [("string", "")]⟩, [';', '\x60']) :=
  have h : '\r' ∉ "\\\x60$\x7b".toList := by decide
  ⟨literals_append.1 _ _, h, literals_append.2.2.2 _ _ h⟩

end Relata.Source
