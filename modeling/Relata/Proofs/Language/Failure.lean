import Relata.Language.Parse
import Relata.Proofs.Language.Progress

/-!
# Texts that cannot be read

A text that is not a model as a whole is read up to the first place that is part of no definition,
and the error names this place. Nothing else can go wrong: a repetition that gives up where nothing
is taken off the text never does, since each of its elements takes something.

## Main definitions

* `manyStrict` — repetition that fails where an element takes nothing.
* `IsRepeated` — the readers that are repeated.
* `StopsBehind` — a text is read up to a place, and the error names it.

## Main results

* `IsRepeated.manyStrict_eq` — no repetition fails.
* `parse_or_stops` — **a text is read, or up to a place where nothing can be read.**
-/

namespace Relata

namespace Text

theorem utf8ByteSize_ofList (s : List Char) : (String.ofList s).utf8ByteSize = byteSize s := by
  induction s with
  | nil => rfl
  | cons c s ih =>
    rw [← List.singleton_append, String.ofList_append, String.utf8ByteSize_append, ih,
      List.singleton_append, byteSize_cons]
    exact congrArg (· + byteSize s) String.utf8ByteSize_singleton

end Text

namespace Language

/-! ### Progress -/

section Progress

variable {α : Type} {p : Parser α}

/-- A reader that takes something off every text it reads from. -/
def Progresses (p : Parser α) : Prop :=
  ∀ ⦃s a rest⦄, p s = some (a, rest) → rest.length < s.length

/-- Repetition that fails where an element is read and nothing is taken. -/
def manyStrict (p : Parser α) : Parser (List α) := fun s =>
  match p s with
  | none => some ([], s)
  | some (a, rest) =>
    if rest.length < s.length then
      (manyStrict p rest).map fun (as, last) => (a :: as, last)
    else none
  termination_by s => s.length

theorem Progresses.manyStrict_eq (hp : Progresses p) (s : List Char) :
    manyStrict p s = some (many p s) := by
  fun_induction many p s with
  | case1 s hnone => rw [manyStrict, hnone]
  | case2 s a rest hstep hlt as last hmany ih =>
    rw [manyStrict, hstep]
    simp only [hlt, if_true]
    rw [ih, hmany, Option.map_some]
  | case3 s a rest hstep hlt => exact absurd (hp hstep) hlt

theorem Advances.progresses (hp : Advances p) : Progresses p := fun _ _ _ h => (hp h).2

end Progress

/-! ### Repetitions -/

/-- The readers of elements that are repeated: the pieces of layout, the definitions of a model, the
relations of a type, the operands behind an operator, and the members of a list behind a comma. -/
inductive IsRepeated : {α : Type} → Parser α → Prop
  | layout : IsRepeated layoutPiece
  | items : IsRepeated (withLayout item)
  | relations : IsRepeated (withLayout relationDefinition)
  | intersection (depth : Nat) :
      IsRepeated (behind ['a', 'n', 'd'] (operand (expressionWithin depth)))
  | union (depth : Nat) :
      IsRepeated (behind ['o', 'r'] (intersectionLevel (expressionWithin depth)))
  | subjects : IsRepeated fun s => comma s >>= subjectReference
  | parameters : IsRepeated fun s => layoutComma s >>= conditionParameter

theorem IsRepeated.isReader {α : Type} {p : Parser α} (h : IsRepeated p) : IsReader p := by
  cases h with
  | layout => exact .layoutPiece
  | items => exact .withLayout .item
  | relations => exact .withLayout .relationDefinition
  | intersection depth => exact .behind _ (.operand (.expressionWithin depth))
  | union depth => exact .behind _ (.intersectionLevel (.expressionWithin depth))
  | subjects => exact .afterComma .subjectReference
  | parameters => exact .afterLayoutComma .conditionParameter

/-- No repetition fails: where an element is read, something is taken. -/
theorem IsRepeated.manyStrict_eq {α : Type} {p : Parser α} (h : IsRepeated p) (s : List Char) :
    manyStrict p s = some (many p s) :=
  h.isReader.advances.progresses.manyStrict_eq s

end Language

open Relata.Language

/-! ### The place of the error -/

/-- What is left of a text is the end of it. -/
theorem take_length_sub {used rest : List Char} :
    (used ++ rest).take ((used ++ rest).length - rest.length) = used := by
  rw [List.length_append, Nat.add_sub_cancel, List.take_left]

/-- `text` is read as `m` up to the end of `used` and no further, and `e` names this place. -/
structure StopsBehind (text used : String) (m : Model) (e : ParseError) : Prop where
  error : Model.parse text = .error e
  /-- The next character is neither layout nor the start of a definition. -/
  next : ∃ (c : Char) (rest : String), text = used ++ String.singleton c ++ rest ∧
    isSpacing c = false ∧ c ≠ '#' ∧ item (c :: rest.toList) = none ∧
    model text.toList = (m, c :: rest.toList)
  position : e.position = used.utf8ByteSize
  position_lt : e.position < text.utf8ByteSize
  /-- Everything in front of the place is in the model. -/
  read : ReadModel m used.toList
  parse_used : Model.parse used = .ok m

theorem stopsBehind_of_model {text : String} {m : Model} {c : Char} {rest : List Char}
    (h : model text.toList = (m, c :: rest)) : ∃ used e, StopsBehind text used m e := by
  obtain ⟨used, htext, hread, hused, hlayout, hitem⟩ := model_split h
  have hstring : text = String.ofList (used ++ c :: rest) := by
    rw [← htext, String.ofList_toList]
  refine ⟨String.ofList used, .between used (c :: rest), ?_⟩
  constructor
  case error =>
    rw [Model.parse, h, htext]
    simp only [take_length_sub]
  case next =>
    refine ⟨c, String.ofList rest, ?_, ?_⟩
    · rw [hstring, ← List.singleton_append, String.ofList_append, String.ofList_append,
        String.append_assoc, String.singleton_eq_ofList]
    rw [String.toList_ofList]
    -- what is left does not start with layout
    have hsolid : isSpacing c = false ∧ c ≠ '#' := by
      rcases layout_eq_nil_or_solid (c :: rest) with hnil | ⟨d, s, hcons, hd⟩
      · rw [hlayout] at hnil
        contradiction
      · rw [hlayout] at hcons
        obtain ⟨rfl, -⟩ := List.cons.inj hcons
        exact hd
    refine ⟨hsolid.1, hsolid.2, ?_, h⟩
    cases hi : item (c :: rest) with
    | none => rfl
    | some r => simp [withLayout, hi] at hitem
  case position =>
    rw [Text.utf8ByteSize_ofList]
    rfl
  case position_lt =>
    rw [hstring, Text.utf8ByteSize_ofList, Text.byteSize_append, Text.byteSize_cons]
    show Text.byteSize used < _
    have := c.utf8Size_pos
    omega
  case read => rwa [String.toList_ofList]
  case parse_used => rw [Model.parse, String.toList_ofList, hused]

/-- **A text is read, or it is read up to a place where nothing can be read**, which the error
names. Nothing else fails: each repetition, that of the pieces of layout included, is the same as
one that gives up where nothing is taken, and each separator takes something. -/
theorem parse_or_stops :
    (∀ text : String, (∃ m, Model.parse text = .ok m) ∨ ∃ used m e, StopsBehind text used m e) ∧
      (∀ {α : Type} {p : Parser α}, IsRepeated p → ∀ s, manyStrict p s = some (many p s)) ∧
      (∀ s, (many layoutPiece s).2 = layout s) ∧
      ∀ s t : List Char, comma s = some t ∨ layoutComma s = some t → t.length < s.length := by
  refine ⟨?_, fun h s => h.manyStrict_eq s, many_layoutPiece, ?_⟩
  · intro text
    obtain ⟨m, rest, hmodel⟩ : ∃ m rest, model text.toList = (m, rest) := ⟨_, _, rfl⟩
    cases rest with
    | nil =>
      left
      refine ⟨m, ?_⟩
      rw [Model.parse, hmodel]
    | cons c rest =>
      right
      obtain ⟨used, e, h⟩ := stopsBehind_of_model hmodel
      exact ⟨used, m, e, h⟩
  · intro s t h
    rcases h with h | h
    · exact (isProperEnd_of_commaBetween spaces_suffix h).2
    · exact (isProperEnd_of_commaBetween layout_suffix h).2

end Relata
