import Relata.Model.Load
import Relata.Proofs.Distinct
import Relata.Proofs.Files
import Relata.Proofs.Language.Accepted

/-!
# What kind of text a file holds

Whether a file holds a payload or a text in the model language is told by the first character behind
its white space. White space is more there than what the language or JSON let stand at the start of
a text, so the look at one character is justified by what both readers do with the rest: neither
takes a text that starts with a blank of another sort. No file that either of them takes is lost.

## Main definitions

* `IsJsonObject` — a text of a JSON object.

## Main results

* `Language.nextIn_of_model` — how a text in the language starts behind its layout.
* `startsWithBrace_of_parse`, `startsWithBrace_of_object` — the two kinds of texts.
* `isJsonObject_of_startsWithBrace` — a text with a value that starts with a brace is an object.
* `Model.ofFile_iff` — **a file is taken if and only if its text is taken as one kind or the other.**
-/

namespace Relata

open Json (Node Read Cursor Document Value FormDocument)

/-! ### First characters -/

namespace Text

variable {p : Char → Bool} {s : List Char} {c : Char}

/-- What stands first behind some of the blanks is a blank or stands first behind all of them. -/
theorem head?_dropWhile_of_trimStart (hp : ∀ c, p c = true → isBlank c = true)
    (h : (trimStart s).head? = some c) :
    ∃ d, (s.dropWhile p).head? = some d ∧ (d = c ∨ isBlank d = true) := by
  induction s with
  | nil => contradiction
  | cons a s ih =>
    rw [trimStart, List.dropWhile_cons] at h
    rw [List.dropWhile_cons]
    by_cases hpa : p a = true
    · rw [if_pos (hp a hpa)] at h
      rw [if_pos hpa]
      exact ih h
    · rw [if_neg hpa]
      refine ⟨a, rfl, ?_⟩
      by_cases ha : isBlank a = true
      · exact Or.inr ha
      · rw [if_neg ha] at h
        exact Or.inl (Option.some.inj h)

/-- What stands first behind some of the blanks and is no blank stands first behind all of them. -/
theorem head?_trimStart_of_dropWhile (hp : ∀ c, p c = true → isBlank c = true)
    (hc : isBlank c = false) (h : (s.dropWhile p).head? = some c) :
    (trimStart s).head? = some c := by
  induction s with
  | nil => contradiction
  | cons a s ih =>
    rw [List.dropWhile_cons] at h
    rw [trimStart, List.dropWhile_cons]
    by_cases hpa : p a = true
    · rw [if_pos hpa] at h
      rw [if_pos (hp a hpa)]
      exact ih h
    · rw [if_neg hpa] at h
      obtain rfl := Option.some.inj h
      rw [hc]
      exact h

end Text

theorem startsWithBrace_eq_true {text : String} :
    startsWithBrace text = true ↔ (Text.trimStart text.toList).head? = some '\x7b' :=
  decide_eq_true_iff

/-! ### Texts in the model language -/

namespace Language

theorem isBlank_of_isSpacing {c : Char} (h : isSpacing c = true) : Text.isBlank c = true := by
  simp only [isSpacing, Bool.or_eq_true, decide_eq_true_eq] at h
  rcases h with ((rfl | rfl) | rfl) | rfl <;> decide

/-- Layout with no comment at its start is blanks and line ends. -/
theorem layout_eq_dropWhile {s : List Char} (h : (s.dropWhile isSpacing).head? ≠ some '#') :
    layout s = s.dropWhile isSpacing := by
  induction s with
  | nil => rfl
  | cons c s ih =>
    rw [List.dropWhile_cons] at h ⊢
    by_cases hc : isSpacing c = true
    · rw [if_pos hc] at h ⊢
      rw [layout, skipLayout, if_pos hc]
      exact ih h
    · rw [if_neg hc] at h ⊢
      rw [layout, skipLayout, if_neg hc, if_neg]
      rintro rfl
      exact h rfl

/-- A text that is read to its end starts with a header or an item, behind layout. -/
theorem nextIn_of_model {s : List Char} {m : Model} (h : model s = (m, [])) :
    NextIn ['m', 't', 'c'] s := by
  intro c hc
  by_contra hne
  simp only [List.mem_cons, List.not_mem_nil, or_false, not_or] at hne
  obtain ⟨hm, ht, hcond⟩ := hne
  obtain ⟨rest, hlayout⟩ : ∃ rest, layout s = c :: rest := by
    cases hs : layout s with
    | nil => simp [hs] at hc
    | cons d rest =>
      rw [hs] at hc
      obtain rfl : d = c := by simpa using hc
      exact ⟨rest, rfl⟩
  have hheader : optionally (withLayout modelHeader) (c :: rest) = (none, c :: rest) := by
    simp [optionally, withLayout, modelHeader, expect, hm]
  have hitem : withLayout item (c :: rest) = none := by
    simp [withLayout, item, orElse, typeDefinition, conditionDefinition, expect, ht, hcond]
  have hmodel : (model s).2 = c :: rest := by
    simp only [model, hlayout, hheader, many_eq_nil hitem]
  rw [h] at hmodel
  contradiction

end Language

/-- A text in the model language does not start with a brace. -/
theorem startsWithBrace_of_parse {text : String} {m : Model} (h : Model.parse text = .ok m) :
    startsWithBrace text = false := by
  rw [Bool.eq_false_iff, ne_eq, startsWithBrace_eq_true]
  intro hbrace
  obtain ⟨d, hd, hblank⟩ :=
    Text.head?_dropWhile_of_trimStart (fun _ => Language.isBlank_of_isSpacing) hbrace
  have hlayout : Language.layout text.toList = text.toList.dropWhile Language.isSpacing := by
    apply Language.layout_eq_dropWhile
    rw [hd]
    rintro ⟨⟩
    rcases hblank with hblank | hblank <;> exact absurd hblank (by decide)
  have hmodel : ∃ m, Language.model text.toList = (m, []) := by
    rw [Model.parse] at h
    split at h
    · next m hm => exact ⟨m, hm⟩
    · contradiction
  obtain ⟨m, hm⟩ := hmodel
  have hnext := Language.nextIn_of_model hm d (by rw [hlayout]; exact hd)
  simp only [List.mem_cons, List.not_mem_nil, or_false] at hnext
  -- none of the three letters is a brace or a blank
  rcases hnext with rfl | rfl | rfl <;> rcases hblank with hblank | hblank <;>
    exact absurd hblank (by decide)

/-! ### Objects -/

/-- The text of a JSON object. -/
def IsJsonObject (text : String) : Prop := ∃ members, Value.ofText? text = .ok (.object members)

namespace Json

/-- Whether a part is an object. -/
def Node.isObject : Node → Bool
  | .object .. => true
  | _ => false

theorem isBlank_of_isGap {c : Char} (h : isGap c = true) : Text.isBlank c = true := by
  rcases isGap_eq_true.mp h with rfl | rfl | rfl | rfl <;> decide

theorem Read.isObject_word (start : Nat) (letters : List Char) (c : Cursor) {node : Nat → Node}
    (h : ∀ n, (node n).isObject = false) : (Read.word start letters c node).node.isObject = false := by
  rw [Read.word]
  split
  · exact h _
  · rfl

theorem Read.isObject_number (c : Cursor) : (Read.number c).node.isObject = false := by
  rw [Read.number]
  split
  · rfl
  · split <;> rfl

theorem Read.isObject_string (start : Nat) (rest : List Char) :
    (Read.string start rest).node.isObject = false := by
  simp only [Read.string]
  split <;> rfl

/-- A part is an object if and only if it starts with a brace. -/
theorem isObject_readNode (fuel outer : Nat) (c : Cursor) :
    (readNode (fuel + 1) outer c).node.isObject = true ↔ c.rest.head? = some '{' := by
  obtain ⟨offset, rest⟩ := c
  simp only [readNode]
  have hword : ∀ (letters : List Char) (d : Cursor) (node : Nat → Node),
      (∀ n, (node n).isObject = false) → (Read.word offset letters d node).node.isObject = false :=
    fun letters d _ => Read.isObject_word offset letters d
  split
  · simp [Read.stuck, Node.isObject]
  -- the three words
  · simp [hword _ _ (.null offset) fun _ => rfl]
  · simp [hword _ _ (.bool offset · true) fun _ => rfl]
  · simp [hword _ _ (.bool offset · false) fun _ => rfl]
  · simp [Read.isObject_string]
  · split <;> simp [Node.isObject]
  · split <;> simp [Node.isObject]
  · next hbrace =>
    split
    · simpa [Read.isObject_number] using hbrace
    · simpa [Read.stuck, Node.isObject] using hbrace

/-- The value of a part is an object if and only if the part is one. -/
theorem isObject_of_value {n : Node} {v : Value} (h : n.value = .ok v) :
    n.isObject = true ↔ ∃ members, v = .object members := by
  cases n with
  | object start deep members ending =>
    obtain ⟨-, -, found, -, rfl⟩ := value_object_eq_ok.mp h
    simp [Node.isObject]
  | array start deep items ending =>
    obtain ⟨-, -, vs, -, rfl⟩ := value_array_eq_ok.mp h
    simp [Node.isObject]
  | unusable start use skip => contradiction
  | _ =>
    obtain rfl := Except.ok.inj h
    simp [Node.isObject]

/-- A part with a value does not start with a blank. -/
theorem isBlank_of_value {fuel outer : Nat} {c : Cursor} {v : Value}
    (h : (readNode (fuel + 1) outer c).node.value = .ok v) :
    ∀ d ∈ c.rest.head?, Text.isBlank d = false := by
  obtain ⟨offset, rest⟩ := c
  have hdigits : ∀ n ∈ Language.blankCodes, (Char.ofNat n).isDigit = false := by decide
  intro d hd
  rw [Bool.eq_false_iff]
  intro hblank
  have hdigit := hdigits d.toNat (Language.mem_blankCodes hblank)
  rw [Char.ofNat_toNat] at hdigit
  simp only [readNode] at h
  split at h
  · contradiction
  -- no character that starts a part is a blank
  iterate 6
    obtain rfl := Option.some.inj hd
    exact absurd hblank (by decide)
  · next d' _ _ _ _ _ _ _ =>
    obtain rfl : d' = d := Option.some.inj hd
    split at h
    · next hnumber =>
      rw [hdigit, Bool.or_false, decide_eq_true_eq] at hnumber
      subst hnumber
      exact absurd hblank (by decide)
    · contradiction

variable {text : String} {v : Value}

/-- The root of a text with a value. -/
theorem value_root (h : Value.ofText? text = .ok v) :
    (readNode (text.toList.length + 1) 0 (Cursor.skipGap ⟨0, text.toList⟩)).node.value = .ok v := by
  obtain ⟨w, hw, h⟩ := bind_eq_ok.mp (mapError_eq_ok.mp h)
  split at h
  · obtain rfl := Except.ok.inj h
    exact hw
  · contradiction

end Json

/-- A text with a value is an object if and only if a brace stands behind its gaps. -/
theorem isJsonObject_iff_of_value {text : String} {v : Value} (h : Value.ofText? text = .ok v) :
    IsJsonObject text ↔ (text.toList.dropWhile Json.isGap).head? = some '\x7b' := by
  have hroot := Json.value_root h
  have hbrace := Json.isObject_readNode text.toList.length 0 (Cursor.skipGap ⟨0, text.toList⟩)
  rw [Json.isObject_of_value hroot] at hbrace
  rw [IsJsonObject, h]
  simpa only [Except.ok.injEq, Cursor.skipGap] using hbrace

/-- The text of an object starts with a brace. -/
theorem startsWithBrace_of_object {text : String} (h : IsJsonObject text) :
    startsWithBrace text = true := by
  obtain ⟨members, hvalue⟩ := id h
  have hhead := (isJsonObject_iff_of_value hvalue).mp h
  exact startsWithBrace_eq_true.mpr
    (Text.head?_trimStart_of_dropWhile (fun _ => Json.isBlank_of_isGap) (by decide) hhead)

/-- A text with a value that starts with a brace is an object: a blank that is no gap before the
brace would leave it without a value. -/
theorem isJsonObject_of_startsWithBrace {text : String} {v : Value}
    (h : Value.ofText? text = .ok v) (hbrace : startsWithBrace text = true) :
    IsJsonObject text := by
  obtain ⟨d, hd, hblank⟩ := Text.head?_dropWhile_of_trimStart (fun _ => Json.isBlank_of_isGap)
    (startsWithBrace_eq_true.mp hbrace)
  have hnone := Json.isBlank_of_value (Json.value_root h) d hd
  rcases hblank with rfl | hblank
  · exact (isJsonObject_iff_of_value h).mpr hd
  · rw [hnone] at hblank
    contradiction

/-- Every text of an object starts with a brace, also one that nests too deep to be read. -/
theorem startsWithBrace_of_formDocument {text : String}
    {members : List (Option String × Json.Form)}
    (h : FormDocument (.object members) text.toList) : startsWithBrace text = true := by
  rw [startsWithBrace_eq_true]
  generalize text.toList = s at h
  cases h with
  | @mk b₁ t b₂ hb₁ ht hb₂ =>
    apply Text.head?_trimStart_of_dropWhile (fun _ => Json.isBlank_of_isGap) (by decide)
    rw [List.append_assoc, List.dropWhile_append_of_pos hb₁]
    cases ht with
    | emptyObject => rfl
    | object => rfl

/-! ### Files -/

namespace Model

variable {content : String} {m : Model}

/-- A payload is a text with a value. -/
theorem value_of_ofJson (h : ofJson content = .ok m) : ∃ v, Value.ofText? content = .ok v := by
  obtain ⟨p, hp, -⟩ := bind_eq_ok.mp h
  have hp := mapError_eq_ok.mp hp
  rw [ModelPayload.ofText] at hp
  dsimp only at hp
  split at hp
  · contradiction
  · next v hv => exact ⟨v, mapError_eq_ok.mpr hv⟩

/-- A text in the language is a parsed one. -/
theorem parse_of_ofLanguage (h : ofLanguage content = .ok m) : ∃ m', parse content = .ok m' := by
  obtain ⟨m', hm', -⟩ := bind_eq_ok.mp h
  exact ⟨m', mapError_eq_ok.mp hm'⟩

/-- A content is taken as what one of the two readers makes of it. -/
theorem ofContent_eq_ok : ofContent content = .ok m ↔
    ofLanguage content = .ok m ∨ (IsJsonObject content ∧ ofJson content = .ok m) := by
  rw [ofContent]
  cases hbrace : startsWithBrace content with
  | false =>
    rw [if_neg (by decide)]
    refine ⟨Or.inl, ?_⟩
    rintro (h | ⟨hobject, -⟩)
    · exact h
    · rw [startsWithBrace_of_object hobject] at hbrace
      contradiction
  | true =>
    rw [if_pos rfl]
    constructor
    · intro h
      obtain ⟨v, hv⟩ := value_of_ofJson h
      exact Or.inr ⟨isJsonObject_of_startsWithBrace hv hbrace, h⟩
    · rintro (h | ⟨-, h⟩)
      · obtain ⟨m', hm'⟩ := parse_of_ofLanguage h
        rw [startsWithBrace_of_parse hm'] at hbrace
        contradiction
      · exact h

/-- **A file is taken if and only if its text is taken as one kind or the other**, and no text is
both. Texts in the language never start with a brace, texts of objects always do. -/
theorem ofFile_iff (content : String) {fs : Files} {path : String}
    (h : fs.readText path = .ok content) :
    (∀ m, ofFile fs path = .ok m ↔
      ofLanguage content = .ok m ∨ (IsJsonObject content ∧ ofJson content = .ok m)) ∧
    ¬ ((∃ m, ofLanguage content = .ok m) ∧ IsJsonObject content ∧ ∃ m, ofJson content = .ok m) ∧
    ((∃ m, parse content = .ok m) → startsWithBrace content = false) ∧
    (IsJsonObject content → startsWithBrace content = true) ∧
    (∀ members, FormDocument (.object members) content.toList → startsWithBrace content = true) := by
  refine ⟨fun m => ?_, ?_, ?_, startsWithBrace_of_object, fun _ => startsWithBrace_of_formDocument⟩
  · rw [ofFile, h, ← ofContent_eq_ok]
    exact mapError_eq_ok
  · rintro ⟨⟨m, hm⟩, hobject, -⟩
    obtain ⟨m', hm'⟩ := parse_of_ofLanguage hm
    have hbrace := startsWithBrace_of_object hobject
    rw [startsWithBrace_of_parse hm'] at hbrace
    contradiction
  · rintro ⟨m, hm⟩
    exact startsWithBrace_of_parse hm

end Model

/-! ### A file of each kind -/

/-- A text in the language and a payload are both taken, each as its kind. -/
theorem Model.ofFile_holding :
    (∃ m, ofFile (.holding (String.ofList lateTwice)) "m" = .ok m ∧
      startsWithBrace (String.ofList lateTwice) = false) ∧
    ofFile (.holding sharedDocuments.payload.render) "m" = .ok sharedDocuments ∧
    startsWithBrace sharedDocuments.payload.render = true := by
  have hfits : sharedDocuments.FitsPayload :=
    ⟨by decide, by decide, by decide, by decide, by decide, by decide⟩
  have hdocument : FormDocument _ sharedDocuments.payload.render.toList :=
    hfits.isTextual.formDocument hfits.isTextual.documentText
  obtain ⟨m, hm, -⟩ := ofLanguage_lateTwice
  obtain ⟨hlate, -, hlanguage, -⟩ :=
    ofFile_iff (String.ofList lateTwice) (Files.readText_holding _)
  obtain ⟨hshared, -, -, -, hobjects⟩ :=
    ofFile_iff sharedDocuments.payload.render (Files.readText_holding _)
  have hbrace := hobjects _ hdocument
  obtain ⟨v, hv⟩ := value_of_ofJson ofJson_sharedDocuments
  have hobject := isJsonObject_of_startsWithBrace hv hbrace
  exact ⟨⟨m, (hlate m).mpr (Or.inl hm), hlanguage (parse_of_ofLanguage hm)⟩,
    (hshared _).mpr (Or.inr ⟨hobject, ofJson_sharedDocuments⟩), hbrace⟩

end Relata
