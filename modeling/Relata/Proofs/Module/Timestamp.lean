import Relata.Proofs.Module.Declarations

/-!
# The line of the timestamp

A module holds the time of its generation on one line, the only one that starts with the timestamp
prefix, and nowhere else. The prefix declares a name, and no text of a model can make another line
declare it. So the modules of a model at two times are the same but for that line.

## Main definitions

* `IsStamp` — a line that starts with the timestamp prefix.
* `GeneratedModule.IsStampedBetween` — a module with one such line, between the others.

## Main results

* `withoutTimestamp_eq` — what is left of a text with one such line.
* `withoutTimestamp_of_generateAt` — **the timestamp is all that two modules of a model differ in.**
-/

namespace Relata

open Source

/-- A line that starts like the line of a timestamp. -/
def IsStamp (line : String) : Prop := Module.timestampPrefix.toList <+: line.toList

/-- A module with one line of a timestamp, between `before` and `after`. -/
structure GeneratedModule.IsStampedBetween (g : GeneratedModule) (before after : List String) :
    Prop where
  stamp : ∃ stamp, IsStamp stamp ∧ Text.linesOf g.source = before ++ stamp :: after ∧
    g.source = Text.unlines before ++ (stamp ++ "\n") ++ Text.unlines after
  others : ∀ line ∈ before ++ after, ¬ IsStamp line
  withoutTimestamp : g.withoutTimestamp = Text.unlines before ++ Text.unlines after

/-! ### Lines -/

/-- A line of a timestamp declares it. -/
theorem IsStamp.declaredName? {line : String} (h : IsStamp line) :
    declaredName? line.toList = some "GENERATED_AT" := by
  obtain ⟨rest, hrest⟩ := h
  have hline : line = Module.timestampPrefix ++ String.ofList rest := by
    rw [← String.toList_inj, String.toList_append, String.toList_ofList, hrest]
  rw [hline, Module.timestampPrefix]
  exact declaredName?_ofList_append fun _ => rfl

theorem isStamp_timestampLine (t : Instant) : IsStamp (Module.timestampLine t).text := by
  rw [IsStamp, Module.timestampLine, Line.text_flush, String.append_assoc, String.toList_append]
  exact List.prefix_append _ _

/-- The only line of a timestamp is left out, and nothing else. -/
theorem withoutTimestamp_eq {source stamp : String} {before after : List String}
    (hlines : Text.linesOf source = before ++ stamp :: after) (hstamp : IsStamp stamp)
    (hothers : ∀ line ∈ before ++ after, ¬ IsStamp line) :
    withoutTimestamp source = Text.unlines before ++ Text.unlines after := by
  have hkept : ∀ line : String,
      (!Module.timestampPrefix.toList.isPrefixOf line.toList) = true ↔ ¬ IsStamp line := by
    intro line
    rw [IsStamp, ← List.isPrefixOf_iff_prefix, Bool.not_eq_true', Bool.not_eq_true]
  have hleftOut : ¬ (!Module.timestampPrefix.toList.isPrefixOf stamp.toList) = true :=
    fun h => (hkept stamp).mp h hstamp
  obtain ⟨hbefore, hafter⟩ := List.forall_mem_append.mp hothers
  rw [withoutTimestamp, hlines, List.filter_append, List.filter_cons, if_neg hleftOut,
    List.filter_eq_self.mpr fun line hline => (hkept line).mpr (hbefore line hline),
    List.filter_eq_self.mpr fun line hline => (hkept line).mpr (hafter line hline), unlines_append]

/-- Lists that differ in one element agree at every other place. -/
theorem getElem?_append_cons_of_ne {α : Type} {before after : List α} {a b : α} {i : ℕ}
    (hi : i ≠ before.length) : (before ++ a :: after)[i]? = (before ++ b :: after)[i]? := by
  rcases Nat.lt_or_gt_of_ne hi with hlt | hgt
  · rw [List.getElem?_append_left hlt, List.getElem?_append_left hlt]
  · obtain ⟨k, hk⟩ : ∃ k, i - before.length = k + 1 := ⟨i - before.length - 1, by omega⟩
    rw [List.getElem?_append_right (by omega), List.getElem?_append_right (by omega), hk,
      List.getElem?_cons_succ, List.getElem?_cons_succ]

/-! ### Modules -/

namespace Module

/-- The lines of a module before that of the timestamp. -/
def linesBefore (table : SymbolTable) : List Line :=
  header table ++ titled "Object types" (objectTypes table) ++
    titled "Relations" (relationGroups table) ++ titled "Tuple keys" (tupleKeys table) ++
    titled "Helpers" Helpers.lines ++ sectionTitle "Metadata"

/-- The lines of a module behind that of the timestamp. -/
def linesAfter (table : SymbolTable) : List Line := .blank :: metadata table

/-- The timestamp stands on its line and nowhere else. -/
theorem moduleLines_eq (table : SymbolTable) (t : Instant) :
    moduleLines table t = linesBefore table ++ timestampLine t :: linesAfter table := rfl

end Module

/-- The module of a model has one line of a timestamp, and the others do not depend on the time. -/
theorem Model.IsValid.isStampedBetween {m : Model} (h : m.IsValid) (hapart : m.NamesAreApart)
    (t : Instant) (fileName : String) :
    GeneratedModule.IsStampedBetween ⟨fileName, Module.moduleText m.table t, t⟩
      ((Module.linesBefore m.table).map Line.text) ((Module.linesAfter m.table).map Line.text) := by
  have hlines : Text.linesOf (Module.moduleText m.table t) =
      (Module.linesBefore m.table).map Line.text ++
        (Module.timestampLine t).text :: (Module.linesAfter m.table).map Line.text := by
    rw [Module.moduleText, linesOf_render (Module.arePlain_moduleLines h.isPlain_table t),
      Module.moduleLines_eq, List.map_append, List.map_cons]
  have hsource : Module.moduleText m.table t =
      Text.unlines ((Module.linesBefore m.table).map Line.text) ++
        ((Module.timestampLine t).text ++ "\n") ++
        Text.unlines ((Module.linesAfter m.table).map Line.text) := by
    rw [Module.moduleText, render, Module.moduleLines_eq, List.map_append, List.map_cons,
      unlines_append, Text.unlines_cons]
    simp only [String.append_assoc]
  -- another such line would declare the timestamp twice
  have hothers : ∀ line ∈ (Module.linesBefore m.table).map Line.text ++
      (Module.linesAfter m.table).map Line.text, ¬ IsStamp line := by
    have hnodup := h.nodup_declarations hapart t
    rw [declarations, hlines] at hnodup
    exact fun line hline hstamp => declaredName?_ne_of_nodup
      (isStamp_timestampLine t).declaredName? hnodup line hline hstamp.declaredName?
  exact ⟨⟨_, isStamp_timestampLine t, hlines, hsource⟩, hothers,
    withoutTimestamp_eq hlines (isStamp_timestampLine t) hothers⟩

/-- **The timestamp is all that two modules of a model differ in.** A model with a module has one at
every time. Modules of it at two times have as many lines, and the same ones but for one; that is
the only line of a timestamp, and without it, and with every other byte, both are the same. -/
theorem withoutTimestamp_of_generateAt {m : Model} {t : Instant} {g : GeneratedModule}
    (h : m.generateAt t = .ok g) (t₁ t₂ : Instant) :
    ∃ g₁ g₂ : GeneratedModule, m.generateAt t₁ = .ok g₁ ∧ m.generateAt t₂ = .ok g₂ ∧
      (∃ before after : List String, g₁.IsStampedBetween before after ∧
        g₂.IsStampedBetween before after ∧
        (Text.linesOf g₁.source).length = (Text.linesOf g₂.source).length ∧
        ∀ i, i ≠ before.length → (Text.linesOf g₁.source)[i]? = (Text.linesOf g₂.source)[i]?) ∧
      g₁.withoutTimestamp = g₂.withoutTimestamp := by
  obtain ⟨hvalid, hapart, -⟩ := Model.generateAt_eq_ok.mp h
  have h₁ := hvalid.isStampedBetween hapart t₁ defaultFileName
  have h₂ := hvalid.isStampedBetween hapart t₂ defaultFileName
  obtain ⟨stamp₁, -, hlines₁, -⟩ := h₁.stamp
  obtain ⟨stamp₂, -, hlines₂, -⟩ := h₂.stamp
  refine ⟨_, _, Model.generateAt_eq_ok.mpr ⟨hvalid, hapart, rfl⟩,
    Model.generateAt_eq_ok.mpr ⟨hvalid, hapart, rfl⟩, ⟨_, _, h₁, h₂, ?_, ?_⟩, ?_⟩
  · rw [hlines₁, hlines₂, List.length_append, List.length_append, List.length_cons,
      List.length_cons]
  · intro i hi
    rw [hlines₁, hlines₂]
    exact getElem?_append_cons_of_ne hi
  · rw [h₁.withoutTimestamp, h₂.withoutTimestamp]

/-- A model whose texts look like the line of a timestamp. -/
def datedNotes : Model where
  id := some "export const GENERATED_AT = 1;"
  schemaVersion := "export const GENERATED_AT = 2;"
  types := [⟨"GENERATED_AT", []⟩]
  conditions := [⟨"\nexport const GENERATED_AT = 3;", "true", []⟩]

theorem withoutTimestamp_datedNotes : ∃ g₁ g₂ : GeneratedModule,
    datedNotes.generateAt ⟨0, 0⟩ = .ok g₁ ∧ datedNotes.generateAt ⟨86400, 0⟩ = .ok g₂ ∧
      g₁.withoutTimestamp = g₂.withoutTimestamp := by
  have h := Model.generateAt_of_problems_eq_nil (m := datedNotes) (by decide) (by decide) default
  obtain ⟨g₁, g₂, h₁, h₂, -, heq⟩ := withoutTimestamp_of_generateAt h ⟨0, 0⟩ ⟨86400, 0⟩
  exact ⟨g₁, g₂, h₁, h₂, heq⟩

end Relata
