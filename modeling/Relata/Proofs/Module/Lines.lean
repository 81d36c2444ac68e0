import Relata.Module.Emission
import Relata.Proofs.Source.Literal
import Relata.Proofs.SymbolTable
import Relata.Proofs.Validation

/-!
# Lines of a module

The lines of a generated module are the ones that it was put together from: no text of a model adds
a line or takes one away.

## Main definitions

* `SymbolTable.IsPlain` — the names that stand outside string literals hold no line ends.
* `sectionTexts` — the lines of a section.

## Main results

* `Model.generateAt_eq_ok` — when there is a module for a model, and which one.
* `arePlain_moduleLines` — no line of a module holds a line end.
* `linesOf_moduleText` — **the lines of a module, section by section.**
-/

namespace Relata

open Source

/-! ### Modules of models -/

/-- There is a module for the valid models whose names do not collide. -/
theorem Model.generateAt_eq_ok {m : Model} {t : Instant} {g : GeneratedModule} :
    m.generateAt t = .ok g ↔ m.IsValid ∧ m.NamesAreApart ∧
      g = ⟨defaultFileName, Module.moduleText m.table t, t⟩ := by
  have hvalid : m.validate = .ok () ↔ m.IsValid := validate_eq_ok.trans problems_eq_nil
  have hbuild := @SymbolTable.build_eq_ok m
  unfold Model.generateAt
  -- the model is validated first; a valid one can still have names that collide
  cases hv : m.validate with
  | error e =>
    refine iff_of_false (fun h => ?_) fun h => ?_
    · cases h
    · rw [hvalid.mpr h.1] at hv
      cases hv
  | ok u =>
    have hm : m.IsValid := hvalid.mp hv
    cases hb : SymbolTable.build m with
    | error c =>
      refine iff_of_false (fun h => ?_) fun h => ?_
      · cases h
      · rw [hbuild.mpr ⟨rfl, h.2.1⟩] at hb
        cases hb
    | ok table =>
      obtain ⟨rfl, hapart⟩ := hbuild.mp hb
      constructor
      · intro h
        cases h
        exact ⟨hm, hapart, rfl⟩
      · rintro ⟨-, -, rfl⟩
        rfl

/-- The module of a model without problems and collisions. -/
theorem Model.generateAt_of_problems_eq_nil {m : Model} (hproblems : m.problems = [])
    (hsymbols : m.symbols.2 = none) (t : Instant) :
    m.generateAt t = .ok ⟨defaultFileName, Module.moduleText m.table t, t⟩ :=
  generateAt_eq_ok.mpr ⟨problems_eq_nil.mp hproblems, symbols_snd_eq_none.mp hsymbols, rfl⟩

/-- What stands outside string literals is written on one line. -/
structure SymbolTable.IsPlain (table : SymbolTable) : Prop where
  name : ∀ t ∈ table.types, IsOneLine t.name
  identifier : ∀ t ∈ table.types, IsOneLine t.identifier
  stem : ∀ t ∈ table.types, IsOneLine t.stem
  relationIdentifier : ∀ t ∈ table.types, ∀ r ∈ t.relations, IsOneLine r.identifier

theorem isOneLine_of_isIdentifierChar {s : String} (h : ∀ c ∈ s.toList, isIdentifierChar c = true) :
    IsOneLine s := by
  intro c hc
  have hchar := h c hc
  constructor
  · rintro rfl; contradiction
  · rintro rfl; contradiction

theorem IsUsableName.isOneLine {name : String} (h : IsUsableName name) : IsOneLine name := by
  intro c hc
  have hblank := h.noBlank c hc
  constructor
  · rintro rfl; contradiction
  · rintro rfl; contradiction

/-- Sanitized names and their stems are written on one line. -/
theorem isOneLine_sanitize (name : String) :
    IsOneLine (sanitize name) ∧ IsOneLine (pascalCase (sanitize name)) :=
  ⟨isOneLine_of_isIdentifierChar (isIdentifier_sanitize name).chars,
    isOneLine_of_isIdentifierChar (isIdentifier_sanitize name).isStem_pascalCase.chars⟩

/-- The table of a valid model is plain. -/
theorem Model.IsValid.isPlain_table {m : Model} (h : m.IsValid) : m.table.IsPlain where
  name := List.forall_mem_map.mpr fun t ht => (h.typeNames t ht).isOneLine
  identifier := List.forall_mem_map.mpr fun t _ => (isOneLine_sanitize t.name).1
  stem := List.forall_mem_map.mpr fun t _ => (isOneLine_sanitize t.name).2
  relationIdentifier := List.forall_mem_map.mpr fun _ _ =>
    List.forall_mem_map.mpr fun r _ => (isOneLine_sanitize r.name).1

namespace Module

/-! ### Lines of one line -/

section Plain

variable {table : SymbolTable}

theorem arePlain_header (table : SymbolTable) : ArePlain (header table) := by
  cases h : table.modelId with
  | none =>
    simp only [header, h, arePlain_cons, Line.content_flush, Line.content_blank, isOneLine_append,
      isOneLine_commentText, arePlain_nil, and_true]
    and_intros <;> exact isOneLine_ofList rfl
  | some id =>
    simp only [header, h, arePlain_cons, Line.content_flush, Line.content_blank, isOneLine_append,
      isOneLine_commentText, arePlain_nil, and_true]
    and_intros <;> exact isOneLine_ofList rfl

theorem arePlain_objectTypes (h : table.IsPlain) : ArePlain (objectTypes table) := by
  have hconstant : ∀ t ∈ table.types, IsOneLine (typeConstant t).content := by
    intro t ht
    simp only [typeConstant, Line.content_flush, isOneLine_append, h.stem t ht,
      isOneLine_stringLiteral, and_true]
    and_intros <;> exact isOneLine_ofList rfl
  have hentry : ∀ t ∈ table.types, IsOneLine (objectTypeEntry t).content := by
    intro t ht
    simp only [objectTypeEntry, Line.content_flush, isOneLine_append, h.stem t ht,
      isOneLine_propertyKey (h.identifier t ht), and_true, true_and]
    and_intros <;> exact isOneLine_ofList rfl
  have hname : IsOneLine (if table.types.isEmpty then "export type ObjectTypeName = never;"
      else "export type ObjectTypeName = (typeof ObjectTypes)[keyof typeof ObjectTypes];") := by
    split <;> exact isOneLine_ofList rfl
  have hgap : ArePlain (if table.types.isEmpty then [] else [Line.blank]) := by
    split
    · simp
    · simpa using isOneLine_ofList rfl
  simp only [objectTypes, arePlain_append, arePlain_map, arePlain_block, arePlain_cons,
    Line.content_flush, Line.content_blank, arePlain_nil, and_true]
  exact ⟨⟨⟨hconstant, hgap⟩, isOneLine_ofList rfl, hentry, isOneLine_ofList rfl⟩,
    isOneLine_ofList rfl, hname⟩

theorem arePlain_relationTable (h : table.IsPlain) {t : TypeSymbol} (ht : t ∈ table.types) :
    ArePlain (relationTable t) := by
  have hentry : ∀ r ∈ t.relations, IsOneLine (relationEntry r).content := by
    intro r hr
    simp only [relationEntry, Line.content_flush, isOneLine_append, isOneLine_stringLiteral,
      isOneLine_propertyKey (h.relationIdentifier t ht r hr), and_true, true_and]
    and_intros <;> exact isOneLine_ofList rfl
  rw [relationTable]
  split
  · simp only [arePlain_cons, Line.content_flush, isOneLine_append, h.stem t ht, arePlain_nil,
      and_true]
    and_intros <;> exact isOneLine_ofList rfl
  · simp only [arePlain_append, arePlain_block, arePlain_map, arePlain_cons, Line.content_flush,
      isOneLine_append, h.stem t ht, arePlain_nil, and_true]
    refine ⟨⟨?_, hentry, ?_⟩, ?_⟩
    all_goals and_intros <;> exact isOneLine_ofList rfl

theorem arePlain_categoryTable (h : table.IsPlain) {t : TypeSymbol} (ht : t ∈ table.types) :
    ArePlain (categoryTable t) := by
  have hcategory : ∀ c ∈ Category.all, IsOneLine (categoryEntry t c).content := by
    intro c _
    simp only [categoryEntry, Line.content_flush, isOneLine_append, isOneLine_stringList, and_true]
    cases c
    all_goals and_intros <;> exact isOneLine_ofList rfl
  simp only [categoryTable, arePlain_block, arePlain_map, isOneLine_append, h.stem t ht, and_true]
  exact ⟨⟨isOneLine_ofList rfl, isOneLine_ofList rfl⟩, hcategory, isOneLine_ofList rfl⟩

theorem arePlain_relationGroup (h : table.IsPlain) {t : TypeSymbol} (ht : t ∈ table.types) :
    ArePlain (relationGroup t) := by
  rw [relationGroup, arePlain_append]
  exact ⟨arePlain_relationTable h ht, arePlain_categoryTable h ht⟩

theorem arePlain_relationGroups (h : table.IsPlain) : ArePlain (relationGroups table) := by
  have hmap : ∀ t ∈ table.types, IsOneLine (relationMapEntry t).content := by
    intro t ht
    simp only [relationMapEntry, Line.content_flush, isOneLine_append, isOneLine_stringLiteral,
      h.stem t ht, and_true, true_and]
    and_intros <;> exact isOneLine_ofList rfl
  have hobject : ∀ t ∈ table.types, IsOneLine (relationsByObjectEntry t).content := by
    intro t _
    simp only [relationsByObjectEntry, Line.content_flush, isOneLine_append, isOneLine_stringList,
      isOneLine_propertyKey (isOneLine_stringLiteral t.name), and_true, true_and]
    and_intros <;> exact isOneLine_ofList rfl
  simp only [relationGroups, arePlain_append, arePlain_flatMap, arePlain_block, arePlain_map,
    arePlain_cons, Line.content_blank, arePlain_nil, and_true]
  exact ⟨⟨fun t ht => ⟨arePlain_relationGroup h ht, isOneLine_ofList rfl⟩, isOneLine_ofList rfl,
    hmap, isOneLine_ofList rfl⟩, isOneLine_ofList rfl, isOneLine_ofList rfl, hobject,
    isOneLine_ofList rfl⟩

theorem arePlain_unionMembers {types : List TypeSymbol} (h : ∀ t ∈ types, IsOneLine t.stem) :
    ArePlain (unionMembers types) := by
  induction types with
  | nil => simp [unionMembers]
  | cons t types ih =>
    have hstem : IsOneLine t.stem := h t List.mem_cons_self
    have hrest : ArePlain (unionMembers types) := ih fun u hu => h u (List.mem_cons_of_mem t hu)
    cases types with
    | nil =>
      simp only [unionMembers, arePlain_cons, Line.content_flush, isOneLine_append, hstem,
        arePlain_nil, and_true]
      and_intros <;> exact isOneLine_ofList rfl
    | cons u types =>
      simp only [unionMembers, arePlain_cons, Line.content_flush, isOneLine_append, hstem, hrest,
        and_true]
      and_intros <;> exact isOneLine_ofList rfl

theorem arePlain_conditionNames (conditions : List String) :
    ArePlain (conditionNames conditions) := by
  simp only [conditionNames, arePlain_cons, Line.content_flush, isOneLine_append,
    isOneLine_stringList, arePlain_nil, and_true]
  refine ⟨⟨isOneLine_ofList rfl, isOneLine_ofList rfl⟩, ?_⟩
  split <;> exact isOneLine_ofList rfl

theorem arePlain_conditionInterface : ArePlain conditionInterface := by
  simp only [conditionInterface, arePlain_block, arePlain_cons, Line.content_flush, arePlain_nil,
    and_true]
  and_intros <;> exact isOneLine_ofList rfl

theorem arePlain_tupleKeyInterface (h : table.IsPlain) {t : TypeSymbol} (ht : t ∈ table.types) :
    ArePlain (tupleKeyInterface t) := by
  simp only [tupleKeyInterface, arePlain_block, arePlain_cons, Line.content_flush,
    isOneLine_append, h.stem t ht, isOneLine_templateText (h.name t ht), arePlain_nil, and_true]
  and_intros <;> exact isOneLine_ofList rfl

theorem arePlain_tupleKeyUnion {types : List TypeSymbol} (h : ∀ t ∈ types, IsOneLine t.stem) :
    ArePlain (tupleKeyUnion types) := by
  rw [tupleKeyUnion]
  split
  · simpa using isOneLine_ofList rfl
  · rw [arePlain_cons, arePlain_map]
    exact ⟨isOneLine_ofList rfl, arePlain_unionMembers h⟩

theorem arePlain_tupleKeys (h : table.IsPlain) : ArePlain (tupleKeys table) := by
  have hentry : ∀ t ∈ table.types, IsOneLine (tupleKeyMapEntry t).content := by
    intro t ht
    simp only [tupleKeyMapEntry, Line.content_flush, isOneLine_append, isOneLine_stringLiteral,
      h.stem t ht, and_true, true_and]
    and_intros <;> exact isOneLine_ofList rfl
  simp only [tupleKeys, arePlain_append, arePlain_cons, arePlain_flatMap, arePlain_block,
    arePlain_map, Line.content_blank, arePlain_nil, and_true]
  exact ⟨⟨⟨⟨arePlain_conditionNames _, isOneLine_ofList rfl, arePlain_conditionInterface⟩,
    isOneLine_ofList rfl, fun t ht => ⟨arePlain_tupleKeyInterface h ht, isOneLine_ofList rfl⟩⟩,
    isOneLine_ofList rfl, hentry, isOneLine_ofList rfl⟩, isOneLine_ofList rfl,
    arePlain_tupleKeyUnion h.stem⟩

/-- The lines between declarations are empty. -/
theorem Helpers.mem_separate {line : String} : ∀ {ds : List (List String)},
    line ∈ Helpers.separate ds → line = "" ∨ ∃ d ∈ ds, line ∈ d
  | [], h => by simp [separate] at h
  | [d], h => Or.inr ⟨d, List.mem_cons_self, h⟩
  | d :: e :: rest, h => by
    rw [separate, List.mem_append, List.mem_cons] at h
    rcases h with h | h | h
    · exact Or.inr ⟨d, List.mem_cons_self, h⟩
    · exact Or.inl h
    · exact (mem_separate h).imp id fun ⟨d', hd', hline⟩ =>
        ⟨d', List.mem_cons_of_mem d hd', hline⟩

theorem arePlain_helpers : ArePlain Helpers.lines := by
  have hlines : ∀ d ∈ Helpers.declarations, ∀ line ∈ d, IsOneLine line := by
    simp only [Helpers.declarations, Helpers.emptyIdentifierError, Helpers.unknownRelationError,
      Helpers.parsedObject, Helpers.isObjectType, Helpers.formatObject, Helpers.parseObject,
      Helpers.isValidRelation, Helpers.buildTupleKey, List.forall_mem_cons, isOneLine_append,
      List.not_mem_nil, false_implies, implies_true, and_true]
    and_intros <;> exact isOneLine_ofList rfl
  rw [Helpers.lines, arePlain_map]
  intro line hline
  rcases Helpers.mem_separate hline with rfl | ⟨d, hd, hline⟩
  · exact isOneLine_ofList rfl
  · exact hlines d hd line hline

theorem arePlain_metadata (h : table.IsPlain) : ArePlain (metadata table) := by
  have hentry : ∀ t ∈ table.types, IsOneLine (relationCategoriesEntry t).content := by
    intro t ht
    simp only [relationCategoriesEntry, Line.content_flush, isOneLine_append, h.stem t ht,
      isOneLine_propertyKey (isOneLine_stringLiteral t.name), and_true, true_and]
    and_intros <;> exact isOneLine_ofList rfl
  have hid : IsOneLine ((table.modelId.map stringLiteral).getD "null") := by
    cases table.modelId with
    | none => exact isOneLine_ofList rfl
    | some id => exact isOneLine_stringLiteral id
  simp only [metadata, arePlain_block, arePlain_append, arePlain_cons, arePlain_map,
    Line.content_flush, isOneLine_append, hid, isOneLine_stringLiteral, isOneLine_stringList,
    arePlain_nil, and_true]
  refine ⟨?_, ⟨⟨?_, ?_, hentry, ?_⟩, ?_⟩, ?_⟩
  all_goals and_intros <;> exact isOneLine_ofList rfl

end Plain

/-! ### Sections -/

/-- The lines of a section: its title, an empty line, its text, and an empty line. -/
def sectionTexts (title : String) (body : List Line) : List String :=
  ("// ---- " ++ title ++ " ----") :: "" :: (body.map Line.text ++ [""])

theorem arePlain_titled {title : String} {body : List Line} (hb : ArePlain body) :
    ArePlain (titled title body) ↔ IsOneLine title := by
  simp only [titled, sectionTitle, arePlain_append, arePlain_cons, Line.content_flush,
    Line.content_blank, isOneLine_append, arePlain_relaid hb, arePlain_nil, and_true]
  constructor
  · exact fun h => h.1.1.1.2
  · exact fun h => ⟨⟨⟨⟨isOneLine_ofList rfl, h⟩, isOneLine_ofList rfl⟩, isOneLine_ofList rfl⟩,
      isOneLine_ofList rfl⟩

theorem text_titled {title : String} {body : List Line} (hb : ArePlain body) :
    (titled title body).map Line.text = sectionTexts title body := by
  simp [titled, sectionTitle, text_relaid hb, sectionTexts]

/-- No line of a module holds a line end. -/
theorem arePlain_moduleLines {table : SymbolTable} (h : table.IsPlain) (t : Instant) :
    ArePlain (moduleLines table t) := by
  simp only [moduleLines, sectionTitle, timestampLine, arePlain_append, arePlain_cons,
    Line.content_flush, Line.content_blank, isOneLine_append, isOneLine_stringLiteral,
    arePlain_header, arePlain_metadata h, arePlain_titled (arePlain_objectTypes h),
    arePlain_titled (arePlain_relationGroups h), arePlain_titled (arePlain_tupleKeys h),
    arePlain_titled arePlain_helpers, arePlain_nil, true_and, and_true]
  and_intros <;> exact isOneLine_ofList rfl

/-- **The lines of a module, section by section.** -/
theorem linesOf_moduleText {table : SymbolTable} (h : table.IsPlain) (t : Instant) :
    Text.linesOf (moduleText table t) =
      (header table).map Line.text ++ sectionTexts "Object types" (objectTypes table) ++
        sectionTexts "Relations" (relationGroups table) ++
        sectionTexts "Tuple keys" (tupleKeys table) ++ sectionTexts "Helpers" Helpers.lines ++
        ["// ---- Metadata ----", "", (timestampLine t).text, ""] ++
        (metadata table).map Line.text := by
  rw [moduleText, linesOf_render (arePlain_moduleLines h t), moduleLines]
  simp only [List.map_append, List.map_cons, text_titled (arePlain_objectTypes h),
    text_titled (arePlain_relationGroups h), text_titled (arePlain_tupleKeys h),
    text_titled arePlain_helpers, sectionTitle, Line.text_blank]
  simp

end Module

end Relata
