import Relata.Json.Literal
import Relata.Json.Printer
import Relata.Proofs.Character
import Relata.Proofs.Result

/-!
# String literals read back

The scanner of string literals stops at the closing quote of a literal, whatever follows, and finds
the same text in it wherever it stands: the offset and the text ahead that it keeps with an escape
only word complaints. What it finds in a written literal is the text that was written.

## Main definitions

* `StringPart.text?` — the text that the elements of a literal stand for.
* `StringBody` — the texts between quotes, with the elements that they consist of.
* `CharText` — how a character is written in a literal: by a letter, by its code, or as it is.

## Main results

* `charText_stringChar` — every character is written in one of these ways.
* `StringBody.scanString_append` — **a string literal is read alike wherever it stands.**
* `scanString_append` — **a written string literal is read back.**
* `stringText_append_inj` — two texts that start with string literals agree literal by literal.
* `le_toNat_of_mem_stringText` — no control characters are written.
-/

namespace Relata.Json

/-! ### Escapes -/

theorem hexDigit?_hexChar (n : Nat) : Text.hexDigit? (hexChar n) = some (n % 16) := by
  have h : ∀ k < 16, Text.hexDigit? (Nat.digitChar k) = some k := by decide
  exact h _ (Nat.mod_lt n (by decide))

/-- The four digits of the escape of a control character. -/
theorem hexUnit?_control {c : Char} (h : c.toNat < 0x20) :
    hexUnit? '0' '0' (hexChar (c.toNat / 16)) (hexChar c.toNat) = some c.toNat := by
  have hzero : Text.hexDigit? '0' = some 0 := by decide
  have hunit : hexUnit? '0' '0' (hexChar (c.toNat / 16)) (hexChar c.toNat) =
      some (16 * (c.toNat / 16 % 16) + c.toNat % 16) := by
    simp [hexUnit?, Text.hexNumber?, hzero, hexDigit?_hexChar]
  rw [hunit, Option.some.injEq]
  omega

/-! ### Written characters -/

/-- The characters that are written behind a backslash, with what stands for them there. -/
def shortEscapes : List (Char × Char) :=
  [('"', '"'), ('\\', '\\'), ('\x08', 'b'), ('\x0c', 'f'), ('\n', 'n'), ('\r', 'r'), ('\t', 't')]

/-- How a character is written in a string literal. -/
inductive CharText (c : Char) : List Char → Prop
  /-- Behind a backslash. -/
  | short {e : Char} (h : (c, e) ∈ shortEscapes) : CharText c ['\\', e]
  /-- By its code. -/
  | unit (h : c.toNat < 0x20) :
      CharText c ['\\', 'u', '0', '0', hexChar (c.toNat / 16), hexChar c.toNat]
  /-- As it is. -/
  | plain (hquote : c ≠ '"') (hslash : c ≠ '\\') (h : 0x20 ≤ c.toNat) : CharText c [c]

/-- Every character is written in one of these ways. -/
theorem charText_stringChar (c : Char) : CharText c (stringChar c) := by
  have hshort : ∀ {d e : Char}, c = d → (d, e) ∈ shortEscapes → CharText c ['\\', e] := by
    rintro d e rfl h
    exact .short h
  unfold stringChar
  split
  · next h => exact hshort h (by decide)
  split
  · next h => exact hshort h (by decide)
  split
  · next h => exact hshort h (by decide)
  split
  · next h => exact hshort h (by decide)
  split
  · next h => exact hshort h (by decide)
  split
  · next h => exact hshort h (by decide)
  split
  · next h => exact hshort h (by decide)
  split
  · next h => exact .unit h
  · next hquote hslash _ _ _ _ _ h => exact .plain hquote hslash (Nat.not_lt.mp h)

/-! ### Elements -/

namespace StringPart

/-- An element that stands nowhere, with the closing quote behind it. -/
def unplaced : StringPart → StringPart
  | char c => .char c
  | unit n _ _ => .unit n 0 ['"']

/-- The closing quote is behind the last element. -/
def EndAtQuote (parts : List StringPart) : Prop :=
  ∀ n stop ahead, parts.getLast? = some (.unit n stop ahead) → ahead.head? = some '"'

theorem endAtQuote_char {c : Char} {parts : List StringPart} (h : EndAtQuote parts) :
    EndAtQuote (.char c :: parts) := by
  intro n stop ahead hlast
  cases parts with
  | nil => simp at hlast
  | cons p parts => exact h n stop ahead (by rwa [List.getLast?_cons_cons] at hlast)

theorem EndAtQuote.tail {p : StringPart} {parts : List StringPart} (h : EndAtQuote (p :: parts)) :
    EndAtQuote parts := by
  intro n stop ahead hlast
  cases parts with
  | nil => contradiction
  | cons q parts => exact h n stop ahead (by rwa [List.getLast?_cons_cons])

/-- The text that elements stand for, if they do. -/
def text? (parts : List StringPart) : Option (List Char) := (values parts).toOption

/-- The text as a string. -/
def string? (parts : List StringPart) : Option String := (text? parts).map String.ofList

theorem toOption_values_cons (c : Char) (parts : List StringPart) :
    (do return c :: (← values parts) : Except Failure (List Char)).toOption =
      (text? parts).map (c :: ·) := by
  rw [text?]
  cases values parts with
  | error f => rfl
  | ok s => rfl

theorem text?_char (c : Char) (parts : List StringPart) :
    text? (.char c :: parts) = (text? parts).map (c :: ·) := by
  rw [text?, values, toOption_values_cons]

/-- Half of a surrogate pair. -/
def isSurrogate (n : Nat) : Bool := isTrailingSurrogate n || isLeadingSurrogate n

theorem text?_last {n stop : Nat} {ahead : List Char} (h : ahead.head? = some '"') :
    text? [.unit n stop ahead] = if isSurrogate n then none else some [Char.ofNat n] := by
  obtain ⟨rest, rfl⟩ : ∃ rest, ahead = '"' :: rest := List.head?_eq_some_iff.mp h
  unfold text? values isSurrogate
  cases isTrailingSurrogate n with
  | true => rfl
  | false =>
    cases isLeadingSurrogate n with
    | true => rfl
    | false => rfl

theorem text?_unit_char (n stop : Nat) (ahead : List Char) (c : Char) (parts : List StringPart) :
    text? (.unit n stop ahead :: .char c :: parts) =
      if isSurrogate n then none else (text? (.char c :: parts)).map (Char.ofNat n :: ·) := by
  rw [text?, isSurrogate]
  unfold values
  cases isTrailingSurrogate n with
  | true => rfl
  | false =>
    cases isLeadingSurrogate n with
    | true =>
      -- the two complaints are two failures
      simp only [Bool.false_eq_true, if_false, if_true, Bool.false_or]
      split
      · rfl
      · rfl
    | false => exact toOption_values_cons _ _

theorem text?_unit_unit (n stop : Nat) (ahead : List Char) (m last : Nat) (behind : List Char)
    (parts : List StringPart) :
    text? (.unit n stop ahead :: .unit m last behind :: parts) =
      if isTrailingSurrogate n then none
      else if isLeadingSurrogate n then
        if isTrailingSurrogate m then
          (text? parts).map (Char.ofNat (0x10000 + 0x400 * (n - 0xD800) + (m - 0xDC00)) :: ·)
        else none
      else (text? (.unit m last behind :: parts)).map (Char.ofNat n :: ·) := by
  rw [text?, values]
  cases isTrailingSurrogate n with
  | true => rfl
  | false =>
    cases isLeadingSurrogate n with
    | true =>
      cases isTrailingSurrogate m with
      | true => exact toOption_values_cons _ _
      | false => rfl
    | false => exact toOption_values_cons _ _

/-- Outside the surrogates a unit stands for a character, whatever follows it. -/
theorem text?_unit {n stop : Nat} {ahead : List Char} (hn : isSurrogate n = false)
    (hahead : ahead.head? = some '"') (parts : List StringPart) :
    text? (.unit n stop ahead :: parts) = (text? parts).map (Char.ofNat n :: ·) := by
  match parts with
  | [] =>
    rw [text?_last hahead, hn]
    rfl
  | .char c :: parts =>
    rw [text?_unit_char, hn]
    rfl
  | .unit m last behind :: parts =>
    rw [isSurrogate, Bool.or_eq_false_iff] at hn
    rw [text?_unit_unit, hn.1, hn.2]
    rfl

/-- Where elements stand does not matter for what they stand for. -/
theorem text?_unplaced : ∀ {parts : List StringPart}, EndAtQuote parts →
    text? (parts.map unplaced) = text? parts
  | [], _ => rfl
  | .char c :: parts, h => by
    rw [List.map_cons, unplaced, text?_char, text?_char, text?_unplaced h.tail]
  | [.unit n stop ahead], h => by
    rw [text?_last (h n stop ahead rfl)]
    exact text?_last rfl
  | .unit n stop ahead :: .char c :: parts, h => by
    have ih := text?_unplaced h.tail
    rw [List.map_cons, unplaced] at ih
    rw [text?_unit_char, ← ih, List.map_cons, List.map_cons, unplaced, unplaced, text?_unit_char]
  | .unit n stop ahead :: .unit m last behind :: parts, h => by
    have ih := text?_unplaced h.tail
    rw [List.map_cons, unplaced] at ih
    rw [text?_unit_unit, ← ih, ← text?_unplaced h.tail.tail, List.map_cons, List.map_cons,
      unplaced, unplaced, text?_unit_unit]

end StringPart

/-! ### Literals -/

/-- The texts between the quotes of a string literal, with the elements that they consist of. -/
inductive StringBody : List Char → List StringPart → Prop
  | nil : StringBody [] []
  | char {c : Char} {s : List Char} {parts : List StringPart} :
      c ≠ '"' → c ≠ '\\' → 0x20 ≤ c.toNat → StringBody s parts →
      StringBody (c :: s) (.char c :: parts)
  | escape {e c : Char} {s : List Char} {parts : List StringPart} :
      simpleEscape? e = some c → StringBody s parts → StringBody ('\\' :: e :: s) (.char c :: parts)
  | unit {a b c d : Char} {n : Nat} {s : List Char} {parts : List StringPart} :
      hexUnit? a b c d = some n → StringBody s parts →
      StringBody ('\\' :: 'u' :: a :: b :: c :: d :: s) (.unit n 0 ['"'] :: parts)

/-- **A string literal is read alike wherever it stands.** -/
theorem StringBody.scanString_append {body : List Char} {parts : List StringPart}
    (h : StringBody body parts) (off : Nat) (rest : List Char) :
    ∃ found stop, scanString off (body ++ '"' :: rest) = ⟨found, .ok ⟨stop, rest⟩⟩ ∧
      found.map StringPart.unplaced = parts ∧ StringPart.EndAtQuote found := by
  -- the offset moves on with each character, so the induction is for all offsets
  induction h generalizing off with
  | nil =>
    refine ⟨[], off + 1, rfl, rfl, ?_⟩
    intro n stop ahead hlast
    contradiction
  | @char c s parts hquote hslash hcontrol _ ih =>
    obtain ⟨found, stop, hscan, hfound, hend⟩ := ih (off + c.utf8Size)
    refine ⟨.char c :: found, stop, ?_, ?_, StringPart.endAtQuote_char hend⟩
    · simp [scanString, hslash, Nat.not_lt.mpr hcontrol, hscan, StringLiteral.push]
    · rw [List.map_cons, hfound, StringPart.unplaced]
  | @escape e c s parts he _ ih =>
    obtain ⟨found, stop, hscan, hfound, hend⟩ := ih (off + 2)
    have hu : e ≠ 'u' := by
      rintro rfl
      contradiction
    refine ⟨.char c :: found, stop, ?_, ?_, StringPart.endAtQuote_char hend⟩
    · simp [scanString, hu, he, hscan, StringLiteral.push]
    · rw [List.map_cons, hfound, StringPart.unplaced]
  | @unit a b c d n s parts hunit hs ih =>
    obtain ⟨found, stop, hscan, hfound, hend⟩ := ih (off + 6)
    refine ⟨.unit n (off + 6) (s ++ '"' :: rest) :: found, stop, ?_, ?_, ?_⟩
    · simp only [List.cons_append, scanString, hunit, hscan]
      rfl
    · rw [List.map_cons, hfound, StringPart.unplaced]
    · -- the last escape is followed by the quote
      intro m last ahead hlast
      cases hs with
      | nil =>
        obtain rfl : found = [] := by simpa using hfound
        obtain ⟨-, -, rfl⟩ := StringPart.unit.inj (Option.some.inj hlast)
        rfl
      | _ =>
        obtain ⟨p, found', rfl, -⟩ := List.map_eq_cons_iff.mp hfound
        exact hend m last ahead hlast

/-- A written character is one element, which stands for the character. -/
theorem stringBody_stringChar (c : Char) :
    ∃ part, (∀ s parts, StringBody s parts → StringBody (stringChar c ++ s) (part :: parts)) ∧
      ∀ parts, StringPart.text? (part :: parts) = (StringPart.text? parts).map (c :: ·) := by
  have hescape : ∀ p ∈ shortEscapes, simpleEscape? p.2 = some p.1 := by decide
  have hchar := charText_stringChar c
  generalize stringChar c = cs at hchar ⊢
  cases hchar with
  | short h =>
    exact ⟨.char c, fun _ _ hs => .escape (hescape _ h) hs, StringPart.text?_char c⟩
  | unit h =>
    -- a control character is written by its code
    have hunit : StringPart.isSurrogate c.toNat = false := by
      simp [StringPart.isSurrogate, isTrailingSurrogate, isLeadingSurrogate]
      omega
    refine ⟨.unit c.toNat 0 ['"'], fun _ _ hs => .unit (hexUnit?_control h) hs, fun parts => ?_⟩
    rw [StringPart.text?_unit hunit rfl, Char.ofNat_toNat]
  | plain hquote hslash h =>
    exact ⟨.char c, fun _ _ hs => .char hquote hslash h hs, StringPart.text?_char c⟩

/-- What is written between quotes for a text stands for it. -/
theorem stringBody_flatMap (s : List Char) :
    ∃ parts, StringBody (s.flatMap stringChar) parts ∧ StringPart.text? parts = some s := by
  induction s with
  | nil => exact ⟨[], .nil, rfl⟩
  | cons c s ih =>
    obtain ⟨parts, hs, htext⟩ := ih
    obtain ⟨part, hpart, htexts⟩ := stringBody_stringChar c
    refine ⟨part :: parts, ?_, ?_⟩
    · rw [List.flatMap_cons]
      exact hpart _ _ hs
    · rw [htexts, htext]
      rfl

/-- **A written string literal is read back.** The scanner stops behind its closing quote. -/
theorem scanString_append (n : Nat) (s rest : List Char) :
    ∃ parts stop, scanString n (s.flatMap stringChar ++ '"' :: rest) =
      ⟨parts, .ok ⟨stop, rest⟩⟩ ∧ StringPart.values parts = .ok s := by
  obtain ⟨parts, hs, htext⟩ := stringBody_flatMap s
  obtain ⟨found, stop, hscan, hfound, hend⟩ := hs.scanString_append n rest
  refine ⟨found, stop, hscan, ?_⟩
  rw [← hfound, StringPart.text?_unplaced hend] at htext
  exact toOption_eq_some.mp htext

/-- Two texts that start with string literals agree literal by literal. -/
theorem stringText_append_inj {s s' rest rest' : List Char}
    (h : stringText s ++ rest = stringText s' ++ rest') : s = s' ∧ rest = rest' := by
  simp only [stringText, List.cons_append, List.append_assoc, List.nil_append, List.cons.injEq,
    true_and] at h
  obtain ⟨parts, stop, hscan, hvalues⟩ := scanString_append 0 s rest
  obtain ⟨parts', stop', hscan', hvalues'⟩ := scanString_append 0 s' rest'
  rw [h, hscan'] at hscan
  simp only [StringLiteral.mk.injEq, Except.ok.injEq, Cursor.mk.injEq] at hscan
  obtain ⟨rfl, -, rfl⟩ := hscan
  rw [hvalues', Except.ok.injEq] at hvalues
  exact ⟨hvalues.symm, rfl⟩

/-! ### Characters of a literal -/

theorem le_toNat_hexChar (n : Nat) : 0x20 ≤ (hexChar n).toNat := by
  have h : ∀ k < 16, 0x20 ≤ (Nat.digitChar k).toNat := by decide
  exact h _ (Nat.mod_lt n (by decide))

theorem le_toNat_of_mem_stringChar {c d : Char} (h : d ∈ stringChar c) : 0x20 ≤ d.toNat := by
  have hescape : ∀ p ∈ shortEscapes, 0x20 ≤ p.2.toNat := by decide
  have hchar := charText_stringChar c
  generalize stringChar c = cs at hchar h
  cases hchar with
  | short he =>
    simp only [List.mem_cons, List.not_mem_nil, or_false] at h
    rcases h with rfl | rfl
    · decide
    · exact hescape _ he
  | unit _ =>
    simp only [List.mem_cons, List.not_mem_nil, or_false] at h
    rcases h with rfl | rfl | rfl | rfl | rfl | rfl
    · decide
    · decide
    · decide
    · decide
    · exact le_toNat_hexChar _
    · exact le_toNat_hexChar _
  | plain _ _ hc =>
    rw [List.mem_singleton] at h
    exact h ▸ hc

/-- No control character below the blank is written. -/
theorem le_toNat_of_mem_stringText {s : List Char} {d : Char} (h : d ∈ stringText s) :
    0x20 ≤ d.toNat := by
  simp only [stringText, List.cons_append, List.mem_cons, List.mem_append, List.mem_flatMap,
    List.not_mem_nil, or_false] at h
  rcases h with rfl | ⟨c, -, hd⟩ | rfl
  · decide
  · exact le_toNat_of_mem_stringChar hd
  · decide

end Relata.Json
