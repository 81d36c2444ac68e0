import Relata.Proofs.Module.Declarations
import Relata.Proofs.Source.Reader

/-!
# References of a module

A module is closed: every name in the code of its lines is declared in the module, or is one of four
that need no declaration. No text of a model can add a name, since all of them stand in literals, in
comments or as keys.

## Main definitions

* `outsideNames` — the names that a module uses without declaring them.
* `SymbolTable.Knows`, `SymbolTable.Covers` — the names and the code that a module may contain.
* `GeneratedModule.IsClosed` — a module declares its names, each once, and refers to no others.

## Main results

* `Module.knows_of_mem_referencesOf` — the names in the code of a module are known.
* `isClosed_of_generateAt` — **the module of a model is closed.**
-/

namespace Relata

/-- The names that a module uses without declaring them: three of the language and a type
parameter. -/
def outsideNames : List String := ["Error", "Object", "Record", "T"]

open Source

/-- A name that the lines of a module may refer to. -/
def SymbolTable.Knows (table : SymbolTable) (name : String) : Prop :=
  name ∈ table.declaredNames ∨ name ∈ outsideNames

/-- The names of a line of code are known. -/
def SymbolTable.Covers (table : SymbolTable) (line : String) : Prop :=
  ∀ name ∈ namesFrom (.code []) line.toList, table.Knows name

namespace SymbolTable

variable {table : SymbolTable}

theorem mem_declaredNames_of_mem_fixedNames {name : String} (h : name ∈ fixedNames) :
    name ∈ table.declaredNames :=
  List.mem_append_left _ h

theorem append_suffix_mem_declaredNames {t : TypeSymbol} (ht : t ∈ table.types) {s : String}
    (hs : s ∈ declarationSuffixes) : t.stem ++ s ∈ table.declaredNames :=
  List.mem_append_right _ (List.mem_flatMap.mpr ⟨t, ht, List.mem_map.mpr ⟨s, hs, rfl⟩⟩)

/-! ### Lines piece by piece -/

/-- A text that is the same in every module. -/
theorem covers_ofList {cs : List Char}
    (h : ∀ name ∈ namesFrom (.code []) cs, name ∈ fixedNames ∨ name ∈ outsideNames) :
    table.Covers (String.ofList cs) := by
  intro name hname
  rw [String.toList_ofList] at hname
  exact (h name hname).imp_left mem_declaredNames_of_mem_fixedNames

/-- Two such texts in a row. -/
theorem covers_ofList_append_ofList {cs cs' : List Char}
    (h : ∀ name ∈ namesFrom (.code []) (cs ++ cs'), name ∈ fixedNames ∨ name ∈ outsideNames) :
    table.Covers (String.ofList cs ++ String.ofList cs') := by
  rw [← String.ofList_append]
  exact covers_ofList h

theorem covers_empty : table.Covers "" := by simp [Covers, namesFrom, nameOf]

/-- A text with names of every module, and what follows. -/
theorem covers_names_append {cs : List Char} {rest : String} (ns : List String)
    (h : ∀ s, namesFrom (.code []) (cs ++ s) = ns ++ namesFrom (.code []) s)
    (hns : ∀ n ∈ ns, n ∈ fixedNames ∨ n ∈ outsideNames) (hrest : table.Covers rest) :
    table.Covers (String.ofList cs ++ rest) := by
  intro name hname
  rw [String.toList_append, String.toList_ofList, h, List.mem_append] at hname
  rcases hname with hname | hname
  · exact (hns name hname).imp_left mem_declaredNames_of_mem_fixedNames
  · exact hrest name hname

/-- A text without names, and what follows. -/
theorem covers_ofList_append {cs : List Char} {rest : String}
    (h : ∀ s, namesFrom (.code []) (cs ++ s) = namesFrom (.code []) s)
    (hrest : table.Covers rest) : table.Covers (String.ofList cs ++ rest) :=
  covers_names_append [] h (by simp) hrest

theorem covers_stringLiteral_append {s rest : String} (hrest : table.Covers rest) :
    table.Covers (stringLiteral s ++ rest) := by
  intro name hname
  rw [String.toList_append, namesFrom_stringLiteral] at hname
  exact hrest name hname

theorem covers_stringList_append {names : List String} {rest : String}
    (hrest : table.Covers rest) : table.Covers (stringList names ++ rest) := by
  intro name hname
  rw [String.toList_append, namesFrom_stringList] at hname
  exact hrest name hname

section Stems

variable {t : TypeSymbol} {cs suffix : List Char} {rest : String}

/-- A name of a type, and what follows. -/
theorem covers_stem_append (h : table.IsNamed) (ht : t ∈ table.types)
    (hsuffix : String.ofList suffix ∈ declarationSuffixes)
    (hcs : ∀ s, (cs ++ s).takeWhile isIdentifierChar = suffix)
    (hcs' : ∀ w s, namesFrom (.code w) ((cs ++ s).dropWhile isIdentifierChar) =
      nameOf w ++ namesFrom (.code []) s)
    (hrest : table.Covers rest) : table.Covers (t.stem ++ (String.ofList cs ++ rest)) := by
  intro name hname
  simp only [String.toList_append, String.toList_ofList] at hname
  rw [namesFrom_word (h.stem t ht).chars, hcs, hcs', List.mem_append] at hname
  rcases hname with hname | hname
  · left
    rw [mem_nameOf hname, String.ofList_append, String.ofList_toList]
    exact append_suffix_mem_declaredNames ht hsuffix
  · exact hrest name hname

/-- A name of a type in the last piece of a line. -/
theorem covers_stem (h : table.IsNamed) (ht : t ∈ table.types)
    (hsuffix : String.ofList suffix ∈ declarationSuffixes)
    (hcs : cs.takeWhile isIdentifierChar = suffix)
    (hcs' : ∀ w, namesFrom (.code w) (cs.dropWhile isIdentifierChar) = nameOf w ++ []) :
    table.Covers (t.stem ++ String.ofList cs) := by
  intro name hname
  rw [String.toList_append, String.toList_ofList, namesFrom_word (h.stem t ht).chars, hcs, hcs',
    List.append_nil] at hname
  left
  rw [mem_nameOf hname, String.ofList_append, String.ofList_toList]
  exact append_suffix_mem_declaredNames ht hsuffix

/-- A name of a type between two texts without names. -/
theorem covers_stem_between {as : List Char} (h : table.IsNamed) (ht : t ∈ table.types)
    (hsuffix : String.ofList suffix ∈ declarationSuffixes)
    (has : ∀ s, namesFrom (.code []) (as ++ s) = namesFrom (.code []) s)
    (hcs : cs.takeWhile isIdentifierChar = suffix)
    (hcs' : ∀ w, namesFrom (.code w) (cs.dropWhile isIdentifierChar) = nameOf w ++ []) :
    table.Covers (String.ofList as ++ (t.stem ++ String.ofList cs)) :=
  covers_ofList_append has (covers_stem h ht hsuffix hcs hcs')

end Stems

/-- A word as a key, and what follows. -/
theorem covers_word_append {key rest : String} (h : ∀ c ∈ key.toList, isIdentifierChar c = true)
    (hrest : table.Covers rest) : table.Covers (key ++ (": " ++ rest)) := by
  intro name hname
  have hcolon : ∀ s, namesFrom (.code key.toList) (": ".toList ++ s) = namesFrom (.code []) s :=
    fun _ => rfl
  rw [String.toList_append, String.toList_append, namesFrom_identifier h, List.nil_append,
    hcolon] at hname
  exact hrest name hname

/-- A key, computed or as it is, and what follows. -/
theorem covers_propertyKey_append {key rest : String} (hrest : table.Covers rest)
    (h : table.Covers (key ++ (": " ++ rest))) :
    table.Covers (propertyKey key ++ (": " ++ rest)) := by
  unfold propertyKey
  split
  · exact covers_ofList_append (fun _ => rfl) (covers_ofList_append (fun _ => rfl) hrest)
  · exact h

theorem covers_identifierKey_append {key rest : String} (h : IsIdentifier key)
    (hrest : table.Covers rest) : table.Covers (propertyKey key ++ (": " ++ rest)) :=
  covers_propertyKey_append hrest (covers_word_append h.chars hrest)

theorem covers_literalKey_append {s rest : String} (hrest : table.Covers rest) :
    table.Covers (propertyKey (stringLiteral s) ++ (": " ++ rest)) :=
  covers_propertyKey_append hrest
    (covers_stringLiteral_append (covers_ofList_append (fun _ => rfl) hrest))

end SymbolTable

namespace Module

open SymbolTable

variable {table : SymbolTable}

/-! ### Sections -/

theorem covers_closing : table.Covers "\x7d as const;" := covers_ofList (by decide)

theorem covers_objectTypes (h : table.IsNamed) :
    ∀ l ∈ objectTypes table, table.Covers l.content := by
  have hsuffix : "Type" ∈ declarationSuffixes := by decide
  have hconstant : ∀ t ∈ table.types, table.Covers (typeConstant t).content := by
    intro t ht
    simp only [typeConstant, Line.content_flush, String.append_assoc]
    refine covers_ofList_append (fun _ => rfl) ?_
    refine covers_stem_append h ht hsuffix (fun _ => rfl) (fun _ _ => rfl) ?_
    exact covers_stringLiteral_append (covers_ofList (by decide))
  have hentry : ∀ t ∈ table.types, table.Covers (objectTypeEntry t).content := by
    intro t ht
    simp only [objectTypeEntry, Line.content_flush, String.append_assoc]
    refine covers_identifierKey_append (h.identifier t ht) ?_
    exact covers_stem h ht hsuffix rfl (fun _ => rfl)
  have hopening : table.Covers "export const ObjectTypes = \x7b" := covers_ofList (by decide)
  have hname : table.Covers (if table.types.isEmpty then "export type ObjectTypeName = never;"
      else "export type ObjectTypeName = (typeof ObjectTypes)[keyof typeof ObjectTypes];") := by
    split <;> exact covers_ofList (by decide)
  have hgap : ∀ l ∈ (if table.types.isEmpty then [] else [Line.blank]), table.Covers l.content := by
    split
    · simp
    · simpa using covers_empty
  simp only [objectTypes, List.forall_mem_append, List.forall_mem_map, forall_mem_block,
    List.forall_mem_cons, Line.content_blank, Line.content_flush, List.not_mem_nil, false_implies,
    implies_true, and_true]
  exact ⟨⟨⟨hconstant, hgap⟩, hopening, hentry, covers_closing⟩, covers_empty, hname⟩

theorem covers_relationTable (h : table.IsNamed) {t : TypeSymbol} (ht : t ∈ table.types) :
    ∀ l ∈ relationTable t, table.Covers l.content := by
  have hrelation : "Relation" ∈ declarationSuffixes := by decide
  have hrelations : "Relations" ∈ declarationSuffixes := by decide
  have hentry : ∀ r ∈ t.relations, table.Covers (relationEntry r).content := by
    intro r hr
    simp only [relationEntry, Line.content_flush, String.append_assoc]
    refine covers_identifierKey_append (h.relationIdentifier t ht r hr) ?_
    exact covers_stringLiteral_append (covers_ofList (by decide))
  rw [relationTable]
  split
  · simp only [List.forall_mem_cons, Line.content_flush, String.append_assoc, List.not_mem_nil,
      false_implies, implies_true, and_true]
    constructor
    · exact covers_stem_between h ht hrelations (fun _ => rfl) rfl (fun _ => rfl)
    · exact covers_stem_between h ht hrelation (fun _ => rfl) rfl (fun _ => rfl)
  · simp only [List.forall_mem_append, forall_mem_block, List.forall_mem_map,
      List.forall_mem_cons, Line.content_flush, String.append_assoc, List.not_mem_nil,
      false_implies, implies_true, and_true]
    refine ⟨⟨?_, hentry, covers_closing⟩, ?_⟩
    · exact covers_stem_between h ht hrelations (fun _ => rfl) rfl (fun _ => rfl)
    · -- the type is that of the values of the table, which is named twice
      refine covers_ofList_append (fun _ => rfl) ?_
      refine covers_stem_append h ht hrelation (fun _ => rfl) (fun _ _ => rfl) ?_
      refine covers_stem_append h ht hrelations (fun _ => rfl) (fun _ _ => rfl) ?_
      exact covers_stem h ht hrelations rfl (fun _ => rfl)

theorem covers_categoryTable (h : table.IsNamed) {t : TypeSymbol} (ht : t ∈ table.types) :
    ∀ l ∈ categoryTable t, table.Covers l.content := by
  have hcategories : "RelationCategories" ∈ declarationSuffixes := by decide
  have hcategory : ∀ c ∈ Category.all, table.Covers (categoryEntry t c).content := by
    intro c _
    have hname : ∀ d ∈ c.name.toList, isIdentifierChar d = true := by cases c <;> decide
    simp only [categoryEntry, Line.content_flush, String.append_assoc]
    refine covers_word_append hname ?_
    exact covers_stringList_append (covers_ofList (by decide))
  simp only [categoryTable, forall_mem_block, List.forall_mem_map, String.append_assoc]
  refine ⟨?_, hcategory, covers_closing⟩
  exact covers_stem_between h ht hcategories (fun _ => rfl) rfl (fun _ => rfl)

theorem covers_relationGroup (h : table.IsNamed) {t : TypeSymbol} (ht : t ∈ table.types) :
    ∀ l ∈ relationGroup t, table.Covers l.content := by
  rw [relationGroup, List.forall_mem_append]
  exact ⟨covers_relationTable h ht, covers_categoryTable h ht⟩

theorem covers_relationGroups (h : table.IsNamed) :
    ∀ l ∈ relationGroups table, table.Covers l.content := by
  have hsuffix : "Relation" ∈ declarationSuffixes := by decide
  have hmap : ∀ t ∈ table.types, table.Covers (relationMapEntry t).content := by
    intro t ht
    simp only [relationMapEntry, Line.content_flush, String.append_assoc]
    refine covers_stringLiteral_append (covers_ofList_append (fun _ => rfl) ?_)
    exact covers_stem h ht hsuffix rfl (fun _ => rfl)
  have hobject : ∀ t ∈ table.types, table.Covers (relationsByObjectEntry t).content := by
    intro t _
    simp only [relationsByObjectEntry, Line.content_flush, String.append_assoc]
    exact covers_literalKey_append (covers_stringList_append (covers_ofList (by decide)))
  have hgroups : ∀ l ∈ table.types.flatMap fun t => relationGroup t ++ [.blank],
      table.Covers l.content := by
    simp only [List.forall_mem_flatMap, List.forall_mem_append, List.forall_mem_singleton]
    exact fun t ht => ⟨covers_relationGroup h ht, covers_empty⟩
  simp only [relationGroups, List.forall_mem_append, List.forall_mem_cons, forall_mem_block,
    List.forall_mem_map, Line.content_blank]
  exact ⟨⟨hgroups, covers_ofList (by decide), hmap, covers_ofList (by decide)⟩,
    covers_empty, covers_ofList (by decide), hobject, covers_closing⟩

theorem covers_unionMembers (h : table.IsNamed) :
    ∀ {types : List TypeSymbol}, types ⊆ table.types →
      ∀ l ∈ unionMembers types, table.Covers l.content := by
  have hsuffix : "TupleKey" ∈ declarationSuffixes := by decide
  intro types
  induction types with
  | nil => simp [unionMembers]
  | cons t types ih =>
    intro hsub
    obtain ⟨ht, hrest⟩ := List.cons_subset.mp hsub
    cases types with
    | nil =>
      simp only [unionMembers, List.forall_mem_singleton, Line.content_flush, String.append_assoc]
      exact covers_stem_between h ht hsuffix (fun _ => rfl) rfl (fun _ => rfl)
    | cons u types =>
      simp only [unionMembers, List.forall_mem_cons, Line.content_flush, String.append_assoc]
      refine ⟨covers_ofList_append (fun _ => rfl) ?_, ih hrest⟩
      exact covers_stem h ht hsuffix rfl (fun _ => (List.append_nil _).symm)

theorem covers_tupleKeyInterface (h : table.IsNamed) {t : TypeSymbol} (ht : t ∈ table.types) :
    ∀ l ∈ tupleKeyInterface t, table.Covers l.content := by
  have hkey : "TupleKey" ∈ declarationSuffixes := by decide
  have htype : "Type" ∈ declarationSuffixes := by decide
  have hrelation : "Relation" ∈ declarationSuffixes := by decide
  have hobject : table.Covers ("object: `" ++ (templateText t.name ++ ":$\x7bstring\x7d`;")) := by
    -- the reader is in a quotation from the first backtick to the last
    have hopening : ∀ cs, namesFrom (.code []) ("object: `".toList ++ cs) =
        namesFrom (.quoted '\x60' false) cs := fun _ => rfl
    have hclosing : namesFrom (.quoted '\x60' false) ":$\x7bstring\x7d`;".toList = [] := rfl
    intro name hname
    rw [String.toList_append, String.toList_append, hopening, namesFrom_templateText,
      hclosing] at hname
    contradiction
  simp only [tupleKeyInterface, forall_mem_block, List.forall_mem_cons, Line.content_flush,
    String.append_assoc, List.not_mem_nil, false_implies, implies_true, and_true]
  refine ⟨?_, ⟨?_, hobject, ?_, covers_ofList (by decide), covers_ofList (by decide)⟩,
    covers_ofList (by decide)⟩
  · exact covers_stem_between h ht hkey (fun _ => rfl) rfl (fun _ => rfl)
  · exact covers_stem_between h ht htype (fun _ => rfl) rfl (fun _ => rfl)
  · exact covers_stem_between h ht hrelation (fun _ => rfl) rfl (fun _ => rfl)

theorem covers_conditionNames (conditions : List String) :
    ∀ l ∈ conditionNames conditions, table.Covers l.content := by
  simp only [conditionNames, List.forall_mem_cons, Line.content_flush, String.append_assoc,
    List.not_mem_nil, false_implies, implies_true, and_true]
  constructor
  · refine covers_names_append ["ConditionNames"] (fun _ => rfl) (by decide) ?_
    exact covers_stringList_append (covers_ofList (by decide))
  · split <;> exact covers_ofList (by decide)

theorem covers_conditionInterface : ∀ l ∈ conditionInterface, table.Covers l.content := by
  simp only [conditionInterface, forall_mem_block, List.forall_mem_cons, Line.content_flush,
    List.not_mem_nil, false_implies, implies_true, and_true]
  and_intros <;> exact covers_ofList (by decide)

theorem covers_tupleKeyUnion (h : table.IsNamed) :
    ∀ l ∈ tupleKeyUnion table.types, table.Covers l.content := by
  rw [tupleKeyUnion]
  split
  · simpa using covers_ofList (by decide)
  · rw [List.forall_mem_cons, List.forall_mem_map]
    exact ⟨covers_ofList (by decide), covers_unionMembers h (List.Subset.refl _)⟩

theorem covers_tupleKeys (h : table.IsNamed) : ∀ l ∈ tupleKeys table, table.Covers l.content := by
  have hsuffix : "TupleKey" ∈ declarationSuffixes := by decide
  have hinterfaces : ∀ l ∈ table.types.flatMap fun t => tupleKeyInterface t ++ [.blank],
      table.Covers l.content := by
    simp only [List.forall_mem_flatMap, List.forall_mem_append, List.forall_mem_singleton]
    exact fun t ht => ⟨covers_tupleKeyInterface h ht, covers_empty⟩
  have hentry : ∀ t ∈ table.types, table.Covers (tupleKeyMapEntry t).content := by
    intro t ht
    simp only [tupleKeyMapEntry, Line.content_flush, String.append_assoc]
    refine covers_stringLiteral_append (covers_ofList_append (fun _ => rfl) ?_)
    exact covers_stem h ht hsuffix rfl (fun _ => rfl)
  simp only [tupleKeys, List.forall_mem_append, List.forall_mem_cons, forall_mem_block,
    List.forall_mem_map, Line.content_blank]
  exact ⟨⟨⟨⟨covers_conditionNames _, covers_empty, covers_conditionInterface⟩, covers_empty,
    hinterfaces⟩, covers_ofList (by decide), hentry, covers_ofList (by decide)⟩, covers_empty,
    covers_tupleKeyUnion h⟩

theorem covers_helpers : ∀ l ∈ Helpers.lines, table.Covers l.content := by
  -- the first line of this declaration is put together from two texts
  have hformat : ∀ line ∈ Helpers.formatObject, table.Covers line := by
    simp only [Helpers.formatObject, List.forall_mem_cons, List.not_mem_nil, false_implies,
      implies_true, and_true]
    and_intros
    on_goal 1 => exact covers_ofList_append_ofList (by decide)
    all_goals exact covers_ofList (by decide)
  have hlines : ∀ d ∈ Helpers.declarations, ∀ line ∈ d, table.Covers line := by
    simp only [Helpers.declarations, Helpers.emptyIdentifierError, Helpers.unknownRelationError,
      Helpers.parsedObject, Helpers.isObjectType, Helpers.parseObject, Helpers.isValidRelation,
      Helpers.buildTupleKey, List.forall_mem_cons, List.not_mem_nil, false_implies, implies_true,
      and_true]
    and_intros
    all_goals first
      | exact covers_ofList (by decide)
      | exact hformat
  rw [Helpers.lines, List.forall_mem_map]
  intro line hline
  rcases Helpers.mem_separate hline with rfl | ⟨d, hd, hline⟩
  · exact covers_empty
  · exact hlines d hd line hline

theorem covers_metadata (h : table.IsNamed) : ∀ l ∈ metadata table, table.Covers l.content := by
  have hsuffix : "RelationCategories" ∈ declarationSuffixes := by decide
  have hid : table.Covers ((table.modelId.map stringLiteral).getD "null" ++ ",") := by
    cases table.modelId with
    | none =>
      change table.Covers ("null" ++ ",")
      exact covers_ofList_append_ofList (by decide)
    | some id => exact covers_stringLiteral_append (covers_ofList (by decide))
  have hentry : ∀ t ∈ table.types, table.Covers (relationCategoriesEntry t).content := by
    intro t ht
    simp only [relationCategoriesEntry, Line.content_flush, String.append_assoc]
    refine covers_literalKey_append ?_
    exact covers_stem h ht hsuffix rfl (fun _ => rfl)
  simp only [metadata, List.forall_mem_append, List.forall_mem_cons, forall_mem_block,
    List.forall_mem_map, Line.content_flush, String.append_assoc, List.not_mem_nil, false_implies,
    implies_true, and_true]
  refine ⟨covers_ofList (by decide), ⟨⟨⟨?_, ?_, ?_, ?_, covers_ofList (by decide)⟩,
    covers_ofList (by decide), hentry, covers_ofList (by decide)⟩,
    covers_ofList (by decide)⟩, covers_closing⟩
  · exact covers_ofList_append (fun _ => rfl) hid
  · refine covers_ofList_append (fun _ => rfl) ?_
    exact covers_stringLiteral_append (covers_ofList (by decide))
  · refine covers_ofList_append (fun _ => rfl) ?_
    exact covers_stringList_append (covers_ofList (by decide))
  · refine covers_ofList_append (fun _ => rfl) ?_
    exact covers_stringList_append (covers_ofList (by decide))

/-! ### All lines -/

theorem references_comment {cs : List Char} {rest : String} :
    references (String.ofList ('/' :: cs) ++ rest) = [] := by
  simp [references]

theorem references_header (table : SymbolTable) :
    ∀ l ∈ header table, references l.text = [] := by
  have hcomment : ∀ {cs : List Char}, references (String.ofList ('/' :: cs)) = [] := by
    simp [references]
  cases h : table.modelId
  all_goals
    simp only [header, h, List.forall_mem_cons, Line.text_flush, Line.text_blank,
      List.not_mem_nil, false_implies, implies_true, and_true, String.append_assoc]
    exact ⟨hcomment, references_comment, hcomment, rfl⟩

/-- The names of a line are those of its content. -/
theorem knows_of_mem_references {l : Line} (h : table.Covers l.content) {name : String}
    (hname : name ∈ references l.text) : table.Knows name := by
  -- the reader passes over the indentation
  have hblank : ∀ n cs, namesFrom (.code []) (List.replicate n ' ' ++ cs) =
      namesFrom (.code []) cs := by
    intro n cs
    induction n with
    | zero => rfl
    | succ n ih =>
      rw [List.replicate_succ, List.cons_append, ← ih]
      rfl
  unfold references at hname
  split at hname
  · contradiction
  · unfold Line.text at hname
    split at hname
    · contradiction
    · rw [String.toList_append, String.toList_ofList, hblank] at hname
      exact h name hname

theorem knows_of_mem_sectionTexts {title : String} {body : List Line}
    (h : ∀ l ∈ body, table.Covers l.content) :
    ∀ line ∈ sectionTexts title body, ∀ name ∈ references line, table.Knows name := by
  have htitle : references ("// ---- " ++ title ++ " ----") = [] := by
    rw [String.append_assoc]
    exact references_comment
  simp only [sectionTexts, List.forall_mem_cons, List.forall_mem_append, List.forall_mem_map,
    htitle, references_empty, List.not_mem_nil, false_implies, implies_true, and_true, true_and]
  exact fun l hl name hname => knows_of_mem_references (h l hl) hname

/-- The names in the code of a module are known. -/
theorem knows_of_mem_referencesOf (h : table.IsPlain) (hn : table.IsNamed) (t : Instant) :
    ∀ name ∈ referencesOf (moduleText table t), table.Knows name := by
  have hheader : ∀ l ∈ header table, ∀ name ∈ references l.text, table.Knows name := by
    intro l hl name hname
    rw [references_header table l hl] at hname
    contradiction
  have htitle : references "// ---- Metadata ----" = [] := rfl
  have htime : table.Covers (timestampLine t).content := by
    simp only [timestampLine, timestampPrefix, Line.content_flush, String.append_assoc]
    refine covers_names_append ["GENERATED_AT"] (fun _ => rfl) (by decide) ?_
    exact covers_stringLiteral_append (covers_ofList (by decide))
  simp only [referencesOf, List.forall_mem_flatMap, linesOf_moduleText h, List.forall_mem_append,
    List.forall_mem_cons, List.forall_mem_map, htitle, references_empty, List.not_mem_nil,
    false_implies, implies_true, and_true, true_and]
  exact ⟨⟨⟨⟨⟨⟨hheader, knows_of_mem_sectionTexts (covers_objectTypes hn)⟩,
    knows_of_mem_sectionTexts (covers_relationGroups hn)⟩,
    knows_of_mem_sectionTexts (covers_tupleKeys hn)⟩, knows_of_mem_sectionTexts covers_helpers⟩,
    fun _ hname => knows_of_mem_references htime hname⟩,
    fun l hl _ hname => knows_of_mem_references (covers_metadata hn l hl) hname⟩

end Module

/-! ### Modules of models -/

/-- What a module for a table declares, and that it is closed. -/
structure GeneratedModule.IsClosed (g : GeneratedModule) (table : SymbolTable) : Prop where
  declares : (declarations g.source).Perm
    (fixedNames ++ table.types.flatMap TypeSymbol.declaredNames)
  once : (declarations g.source).Nodup
  identifiers : ∀ name ∈ declarations g.source, IsIdentifier name
  closed : ∀ name ∈ referencesOf g.source, name ∈ declarations g.source ∨ name ∈ outsideNames

/-- **A module declares each of its names once and refers to no others.** -/
theorem isClosed_of_generateAt {m : Model} {t : Instant} {g : GeneratedModule}
    (h : m.generateAt t = .ok g) : ∃ table, SymbolTable.build m = .ok table ∧ g.IsClosed table := by
  obtain ⟨hvalid, hapart, rfl⟩ := Model.generateAt_eq_ok.mp h
  have hn : m.table.IsNamed := m.isNamed_table
  have hdeclares := Module.declarations_moduleText hvalid.isPlain_table hn t
  refine ⟨m.table, SymbolTable.build_eq_ok.mpr ⟨rfl, hapart⟩, hdeclares, ?_, ?_, ?_⟩
  · exact hdeclares.nodup_iff.mpr
      (SymbolTable.nodup_declaredNames (hapart.nodup_stems hvalid.distinct) hn)
  · intro name hname
    exact SymbolTable.isIdentifier_declaredNames hn name (hdeclares.mem_iff.mp hname)
  · intro name hname
    exact (Module.knows_of_mem_referencesOf hvalid.isPlain_table hn t name hname).imp_left
      hdeclares.mem_iff.mpr

/-- Types that are called like parts of the names of every module. -/
def lookAlikes : Model where
  id := none
  schemaVersion := "1.1"
  types := [⟨"build", []⟩, ⟨"is_valid", []⟩, ⟨"is_object", []⟩]
  conditions := []

theorem isClosed_lookAlikes : ∃ g, lookAlikes.generateAt default = .ok g ∧
    ∃ table, SymbolTable.build lookAlikes = .ok table ∧ g.IsClosed table := by
  have hproblems : lookAlikes.problems = [] := by decide
  have hsymbols : lookAlikes.symbols.2 = none := by decide
  have h : lookAlikes.generateAt default =
      .ok ⟨defaultFileName, Module.moduleText lookAlikes.table default, default⟩ :=
    Model.generateAt_eq_ok.mpr
      ⟨Model.problems_eq_nil.mp hproblems, Model.symbols_snd_eq_none.mp hsymbols, rfl⟩
  exact ⟨_, h, isClosed_of_generateAt h⟩

end Relata
