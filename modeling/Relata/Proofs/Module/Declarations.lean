import Mathlib.Data.List.Perm.Basic
import Relata.Proofs.Module.Lines
import Relata.Proofs.Module.Names

/-!
# Declarations of a module

The names that the lines of a module declare, read off its text.

## Main definitions

* `declaredName?` — the name that a line declares.
* `declarations` — the names that a text declares, in their order.

## Main results

* `declarations_moduleText` — **a module declares its names, each once.**
* `declaredName?_ne_of_nodup` — a declared name marks one line.
-/

namespace Relata

/-- The words that introduce a declaration. -/
def declarationWords : List (List Char) :=
  [['c', 'o', 'n', 's', 't'], ['t', 'y', 'p', 'e'],
    ['i', 'n', 't', 'e', 'r', 'f', 'a', 'c', 'e'], ['c', 'l', 'a', 's', 's'],
    ['f', 'u', 'n', 'c', 't', 'i', 'o', 'n']]

/-- The name that a line declares: the identifier behind `export` and one of the words. -/
def declaredName? (line : List Char) : Option String :=
  declarationWords.findSome? fun word =>
    (List.isPrefixOf? (['e', 'x', 'p', 'o', 'r', 't', ' '] ++ word ++ [' ']) line).map
      fun rest => String.ofList (rest.takeWhile isIdentifierChar)

/-- The names that lines declare. -/
def declaredBy (lines : List String) : List String := lines.filterMap (declaredName? ·.toList)

/-- The names that a text declares, in their order. -/
def declarations (source : String) : List String := declaredBy (Text.linesOf source)

open Source

/-! ### Lines -/

theorem declaredName?_ofList (cs : List Char) :
    declaredName? (String.ofList cs).toList = declaredName? cs := by
  rw [String.toList_ofList]

/-- A line that does not start like a declaration declares nothing. -/
theorem declaredName?_eq_none {line : List Char} (h : line.head? ≠ some 'e') :
    declaredName? line = none := by
  cases line with
  | nil => rfl
  | cons c line =>
    have hc : ('e' == c) = false := by
      rw [beq_eq_false_iff_ne]
      rintro rfl
      exact h rfl
    simp [declaredName?, declarationWords, List.isPrefixOf?, hc]

/-- Lines further in declare nothing. -/
theorem declaredName?_deeper (l : Line) : declaredName? l.deeper.text.toList = none := by
  refine declaredName?_eq_none ?_
  by_cases h : l.content = ""
  · simp [Line.text, h]
  · simp [Line.head?_text_deeper h]

/-- A line whose start tells what it declares. -/
theorem declaredName?_ofList_append {cs : List Char} {rest : String} {name : Option String}
    (h : ∀ s, declaredName? (cs ++ s) = name) :
    declaredName? (String.ofList cs ++ rest).toList = name := by
  rw [String.toList_append, String.toList_ofList]
  exact h rest.toList

/-- A declaration whose name starts with a stem. -/
theorem declaredName?_stem {cs cs' suffix : List Char} {stem rest : String} (h : IsStem stem)
    (hcs : ∀ s, declaredName? (cs ++ s) = some (String.ofList (s.takeWhile isIdentifierChar)))
    (hcs' : ∀ s, (cs' ++ s).takeWhile isIdentifierChar = suffix) :
    declaredName? (String.ofList cs ++ (stem ++ (String.ofList cs' ++ rest))).toList =
      some (stem ++ String.ofList suffix) := by
  simp only [String.toList_append, String.toList_ofList]
  rw [hcs, List.takeWhile_append_of_pos h.chars, hcs', String.ofList_append, String.ofList_toList]

/-- The same where nothing follows. -/
theorem declaredName?_stem_end {cs cs' suffix : List Char} {stem : String} (h : IsStem stem)
    (hcs : ∀ s, declaredName? (cs ++ s) = some (String.ofList (s.takeWhile isIdentifierChar)))
    (hcs' : ∀ s, (cs' ++ s).takeWhile isIdentifierChar = suffix) :
    declaredName? (String.ofList cs ++ stem ++ String.ofList cs').toList =
      some (stem ++ String.ofList suffix) := by
  have hrest : declaredName? (String.ofList cs ++ (stem ++ (String.ofList cs' ++ ""))).toList =
      some (stem ++ String.ofList suffix) := declaredName?_stem h hcs hcs'
  rwa [String.append_empty, ← String.append_assoc] at hrest

section LineByLine

variable {β : Type} {read : String → Option β}

/-- Of lines further in nothing is read. -/
theorem filterMap_deeper (h : ∀ l : Line, read l.deeper.text = none) (body : List Line) :
    ((body.map Line.deeper).map Line.text).filterMap read = [] := by
  refine List.filterMap_eq_nil_iff.mpr ?_
  simp only [List.forall_mem_map]
  exact fun l _ => h l

/-- Of a block only the first line is read. -/
theorem filterMap_block (h : ∀ l : Line, read l.deeper.text = none) {opening closing : String}
    {body : List Line} (hc : read closing = none) :
    ((block opening body closing).map Line.text).filterMap read = (read opening).toList := by
  rw [block, List.map_append, List.map_cons, List.filterMap_append, List.filterMap_cons,
    filterMap_deeper h, Line.text_flush, List.map_singleton, Line.text_flush,
    List.filterMap_cons_none hc, List.filterMap_nil, List.append_nil]
  cases read opening <;> rfl

theorem filterMap_flatMap_text {α : Type} {f : α → List Line} {as : List α} :
    ((as.flatMap f).map Line.text).filterMap read =
      as.flatMap fun a => ((f a).map Line.text).filterMap read := by
  rw [List.map_flatMap, List.filterMap_flatMap]

end LineByLine

section DeclaredBy

variable {ls ls' : List String}

@[simp] theorem declaredBy_nil : declaredBy [] = [] := rfl

@[simp] theorem declaredBy_append : declaredBy (ls ++ ls') = declaredBy ls ++ declaredBy ls' :=
  List.filterMap_append

theorem declaredBy_cons {l : String} :
    declaredBy (l :: ls) = (declaredName? l.toList).toList ++ declaredBy ls := by
  cases h : declaredName? l.toList with
  | none => exact List.filterMap_cons_none h
  | some name => exact List.filterMap_cons_some h

theorem declaredBy_cons_some {l name : String} (h : declaredName? l.toList = some name) :
    declaredBy (l :: ls) = name :: declaredBy ls :=
  List.filterMap_cons_some h

theorem declaredBy_cons_none {l : String} (h : declaredName? l.toList = none) :
    declaredBy (l :: ls) = declaredBy ls :=
  List.filterMap_cons_none h

/-- Where no name is declared twice, the line that declares a name is the only one that does. -/
theorem declaredName?_ne_of_nodup {l name : String} (hl : declaredName? l.toList = some name)
    (h : (declaredBy (ls ++ l :: ls')).Nodup) :
    ∀ l' ∈ ls ++ ls', declaredName? l'.toList ≠ some name := by
  intro l' hl' hname
  have hmem : name ∈ declaredBy (ls ++ ls') := List.mem_filterMap.mpr ⟨l', hl', hname⟩
  rw [declaredBy_append, declaredBy_cons_some hl] at h
  rw [declaredBy_append] at hmem
  exact (List.nodup_middle.mp h).notMem hmem

/-- An empty line declares nothing. -/
@[simp] theorem declaredBy_cons_empty : declaredBy ("" :: ls) = declaredBy ls := rfl

theorem declaredBy_flatMap {α : Type} {f : α → List Line} {as : List α} :
    declaredBy ((as.flatMap f).map Line.text) =
      as.flatMap fun a => declaredBy ((f a).map Line.text) :=
  filterMap_flatMap_text

/-- Lines further in declare nothing. -/
theorem declaredBy_deeper (body : List Line) :
    declaredBy ((body.map Line.deeper).map Line.text) = [] :=
  filterMap_deeper declaredName?_deeper body

/-- The body of a block declares nothing. -/
theorem declaredBy_block {opening closing : String} {body : List Line} {name : String}
    (ho : declaredName? opening.toList = some name) (hc : declaredName? closing.toList = none) :
    declaredBy ((block opening body closing).map Line.text) = [name] := by
  rw [declaredBy, filterMap_block declaredName?_deeper hc, ho]
  rfl

end DeclaredBy

namespace Module

/-! ### Sections -/

theorem declaredName?_closing : declaredName? "\x7d".toList = none ∧
    declaredName? "\x7d as const;".toList = none :=
  ⟨(declaredName?_ofList _).trans rfl, (declaredName?_ofList _).trans rfl⟩

variable {table : SymbolTable}

theorem declaredBy_objectTypes (h : ∀ t ∈ table.types, IsStem t.stem) :
    declaredBy ((objectTypes table).map Line.text) =
      table.types.map (·.stem ++ "Type") ++ ["ObjectTypes", "ObjectTypeName"] := by
  have hconstant : ∀ t ∈ table.types,
      declaredName? (typeConstant t).text.toList = some (t.stem ++ "Type") := by
    intro t ht
    rw [typeConstant, Line.text_flush]
    simp only [String.append_assoc]
    exact declaredName?_stem (h t ht) (fun _ => rfl) (fun _ => rfl)
  have hconstants : declaredBy ((table.types.map typeConstant).map Line.text) =
      table.types.map (·.stem ++ "Type") := by
    rw [declaredBy, List.map_map, List.filterMap_map]
    exact List.filterMap_eq_map_iff_forall_eq_some.mpr hconstant
  have hgap :
      declaredBy ((if table.types.isEmpty then [] else [Line.blank]).map Line.text) = [] := by
    split <;> rfl
  have hname : declaredName? (if table.types.isEmpty then "export type ObjectTypeName = never;"
      else "export type ObjectTypeName = (typeof ObjectTypes)[keyof typeof ObjectTypes];").toList =
        some "ObjectTypeName" := by
    split <;> exact (declaredName?_ofList _).trans rfl
  have htable : declaredName? "export const ObjectTypes = \x7b".toList = some "ObjectTypes" :=
    (declaredName?_ofList _).trans rfl
  simp only [objectTypes, List.map_append, List.map_cons, List.map_nil, Line.text_flush,
    Line.text_blank, declaredBy_append, declaredBy_cons_empty, hconstants, hgap,
    declaredBy_block htable declaredName?_closing.2]
  rw [declaredBy_cons_some hname]
  simp

theorem declaredBy_relationTable {t : TypeSymbol} (h : IsStem t.stem) :
    declaredBy ((relationTable t).map Line.text) =
      [t.stem ++ "Relations", t.stem ++ "Relation"] := by
  rw [relationTable]
  split
  · have hempty : declaredName?
        ("export const " ++ t.stem ++ "Relations = \x7b\x7d as const;").toList =
          some (t.stem ++ "Relations") :=
      declaredName?_stem_end h (fun _ => rfl) (fun _ => rfl)
    have hnever : declaredName? ("export type " ++ t.stem ++ "Relation = never;").toList =
        some (t.stem ++ "Relation") :=
      declaredName?_stem_end h (fun _ => rfl) (fun _ => rfl)
    simp only [List.map_cons, List.map_nil, Line.text_flush]
    rw [declaredBy_cons_some hempty, declaredBy_cons_some hnever, declaredBy_nil]
  · have hopening : declaredName? ("export const " ++ t.stem ++ "Relations = \x7b").toList =
        some (t.stem ++ "Relations") :=
      declaredName?_stem_end h (fun _ => rfl) (fun _ => rfl)
    have hunion : declaredName? ("export type " ++ t.stem ++ "Relation = (typeof " ++ t.stem ++
        "Relations)[keyof typeof " ++ t.stem ++ "Relations];").toList =
          some (t.stem ++ "Relation") := by
      simp only [String.append_assoc]
      exact declaredName?_stem h (fun _ => rfl) (fun _ => rfl)
    simp only [List.map_append, List.map_cons, List.map_nil, Line.text_flush, declaredBy_append,
      declaredBy_block hopening declaredName?_closing.2]
    rw [declaredBy_cons_some hunion, declaredBy_nil]
    rfl

theorem declaredBy_relationGroup {t : TypeSymbol} (h : IsStem t.stem) :
    declaredBy ((relationGroup t ++ [Line.blank]).map Line.text) =
      [t.stem ++ "Relations", t.stem ++ "Relation", t.stem ++ "RelationCategories"] := by
  have hopening : declaredName? ("export const " ++ t.stem ++ "RelationCategories = \x7b").toList =
      some (t.stem ++ "RelationCategories") :=
    declaredName?_stem_end h (fun _ => rfl) (fun _ => rfl)
  simp only [relationGroup, categoryTable, List.map_append, List.map_cons, List.map_nil,
    Line.text_blank, declaredBy_append, declaredBy_cons_empty, declaredBy_relationTable h,
    declaredBy_block hopening declaredName?_closing.2]
  rfl

theorem declaredBy_relationGroups (h : ∀ t ∈ table.types, IsStem t.stem) :
    declaredBy ((relationGroups table).map Line.text) =
      table.types.flatMap (fun t =>
        [t.stem ++ "Relations", t.stem ++ "Relation", t.stem ++ "RelationCategories"]) ++
      ["RelationMap", "RelationsByObject"] := by
  have hmap : declaredName? "export interface RelationMap \x7b".toList = some "RelationMap" :=
    (declaredName?_ofList _).trans rfl
  have hobject : declaredName? "export const RelationsByObject = \x7b".toList =
      some "RelationsByObject" := (declaredName?_ofList _).trans rfl
  have hgroups : declaredBy
      ((table.types.flatMap fun t => relationGroup t ++ [.blank]).map Line.text) =
        table.types.flatMap fun t =>
          [t.stem ++ "Relations", t.stem ++ "Relation", t.stem ++ "RelationCategories"] := by
    rw [declaredBy_flatMap]
    exact List.flatMap_congr fun t ht => declaredBy_relationGroup (h t ht)
  rw [relationGroups, List.map_append, List.map_append, declaredBy_append, declaredBy_append,
    hgroups, declaredBy_block hmap declaredName?_closing.1, List.map_cons, Line.text_blank,
    declaredBy_cons_empty, declaredBy_block hobject declaredName?_closing.2, List.append_assoc]
  rfl

theorem declaredBy_tupleKeyInterface {t : TypeSymbol} (h : IsStem t.stem) :
    declaredBy ((tupleKeyInterface t ++ [Line.blank]).map Line.text) = [t.stem ++ "TupleKey"] := by
  have hopening : declaredName? ("export interface " ++ t.stem ++ "TupleKey \x7b").toList =
      some (t.stem ++ "TupleKey") :=
    declaredName?_stem_end h (fun _ => rfl) (fun _ => rfl)
  rw [tupleKeyInterface, List.map_append, declaredBy_append,
    declaredBy_block hopening declaredName?_closing.1]
  rfl

theorem declaredBy_tupleKeyUnion (types : List TypeSymbol) :
    declaredBy ((tupleKeyUnion types).map Line.text) = ["TupleKey"] := by
  have hnever : declaredName? "export type TupleKey = never;".toList = some "TupleKey" :=
    (declaredName?_ofList _).trans rfl
  have hopening : declaredName? "export type TupleKey =".toList = some "TupleKey" :=
    (declaredName?_ofList _).trans rfl
  rw [tupleKeyUnion]
  split
  · exact declaredBy_cons_some hnever
  · have hmembers : declaredBy (((unionMembers types).map Line.deeper).map Line.text) = [] :=
      declaredBy_deeper _
    rw [List.map_cons, Line.text_flush, declaredBy_cons_some hopening, hmembers]

theorem declaredBy_conditionNames (conditions : List String) :
    declaredBy ((conditionNames conditions).map Line.text) =
      ["ConditionNames", "ConditionName"] := by
  have hnames : declaredName? ("export const ConditionNames = " ++ stringList conditions ++
      " as const;").toList = some "ConditionNames" := by
    rw [String.append_assoc]
    exact declaredName?_ofList_append fun _ => rfl
  have hname : declaredName? (if conditions.isEmpty then "export type ConditionName = string;"
      else "export type ConditionName = (typeof ConditionNames)[number];").toList =
        some "ConditionName" := by
    split <;> exact (declaredName?_ofList _).trans rfl
  simp only [conditionNames, List.map_cons, List.map_nil, Line.text_flush]
  rw [declaredBy_cons_some hnames, declaredBy_cons_some hname, declaredBy_nil]

theorem declaredBy_tupleKeys (h : ∀ t ∈ table.types, IsStem t.stem) :
    declaredBy ((tupleKeys table).map Line.text) =
      ["ConditionNames", "ConditionName", "TupleKeyCondition"] ++
        table.types.map (·.stem ++ "TupleKey") ++ ["TupleKeyMap", "TupleKey"] := by
  have hcondition : declaredName? "export interface TupleKeyCondition \x7b".toList =
      some "TupleKeyCondition" := (declaredName?_ofList _).trans rfl
  have hinterfaces : declaredBy ((table.types.flatMap fun t =>
      tupleKeyInterface t ++ [.blank]).map Line.text) = table.types.map (·.stem ++ "TupleKey") := by
    rw [declaredBy_flatMap, List.map_eq_flatMap]
    exact List.flatMap_congr fun t ht => declaredBy_tupleKeyInterface (h t ht)
  have hmap : declaredName? "export interface TupleKeyMap \x7b".toList = some "TupleKeyMap" :=
    (declaredName?_ofList _).trans rfl
  simp only [tupleKeys, conditionInterface, List.map_append, List.map_cons, Line.text_blank,
    declaredBy_append, declaredBy_cons_empty, declaredBy_conditionNames,
    declaredBy_block hcondition declaredName?_closing.1, hinterfaces,
    declaredBy_block hmap declaredName?_closing.1, declaredBy_tupleKeyUnion]
  simp

theorem declaredBy_separate : ∀ ds : List (List String),
    declaredBy (Helpers.separate ds) = ds.flatMap declaredBy
  | [] => rfl
  | [d] => by simp [Helpers.separate]
  | d :: e :: rest => by
    rw [Helpers.separate, declaredBy_append, declaredBy_cons_empty, declaredBy_separate (e :: rest)]
    rfl

theorem declaredBy_helpers : declaredBy (Helpers.lines.map Line.text) =
    ["EmptyIdentifierError", "UnknownRelationError", "ParsedObject", "isObjectType",
      "formatObject", "parseObject", "isValidRelation", "buildTupleKey"] := by
  have hfirst : Helpers.declarations.map (fun d => declaredName? (d.headD "").toList) =
      ["EmptyIdentifierError", "UnknownRelationError", "ParsedObject", "isObjectType",
        "formatObject", "parseObject", "isValidRelation", "buildTupleKey"].map some := by
    simp only [Helpers.declarations, Helpers.emptyIdentifierError, Helpers.unknownRelationError,
      Helpers.parsedObject, Helpers.isObjectType, Helpers.formatObject, Helpers.parseObject,
      Helpers.isValidRelation, Helpers.buildTupleKey, List.map_cons, List.map_nil, List.headD_cons,
      List.cons.injEq, and_true]
    and_intros
    on_goal 5 => exact declaredName?_ofList_append fun _ => rfl
    all_goals exact (declaredName?_ofList _).trans rfl
  have htail : ∀ d ∈ Helpers.declarations, ∀ line ∈ d.tail, declaredName? line.toList = none := by
    simp only [Helpers.declarations, Helpers.emptyIdentifierError, Helpers.unknownRelationError,
      Helpers.parsedObject, Helpers.isObjectType, Helpers.formatObject, Helpers.parseObject,
      Helpers.isValidRelation, Helpers.buildTupleKey, List.tail_cons, List.forall_mem_cons,
      List.not_mem_nil, false_implies, implies_true, and_true]
    and_intros <;> exact (declaredName?_ofList _).trans rfl
  -- so each of them declares what its first line declares
  have hlines : ∀ d ∈ Helpers.declarations,
      declaredBy d = (declaredName? (d.headD "").toList).toList := by
    intro d hd
    have hrest : declaredBy d.tail = [] := List.filterMap_eq_nil_iff.mpr (htail d hd)
    cases d with
    | nil => rfl
    | cons line rest =>
      rw [List.tail_cons] at hrest
      rw [declaredBy_cons, hrest, List.append_nil, List.headD_cons]
  rw [Helpers.lines, List.map_map]
  have htext : Line.text ∘ Line.flush = id := funext Line.text_flush
  rw [htext, List.map_id, declaredBy_separate, List.flatMap_congr hlines, ← List.flatMap_map,
    hfirst]
  rfl

theorem declaredBy_header (table : SymbolTable) :
    declaredBy ((header table).map Line.text) = [] := by
  refine List.filterMap_eq_nil_iff.mpr ?_
  cases h : table.modelId
  all_goals
    simp only [header, h, List.map_cons, List.map_nil, Line.text_flush, Line.text_blank,
      List.forall_mem_cons, List.not_mem_nil, false_implies, implies_true, and_true,
      String.append_assoc]
    exact ⟨(declaredName?_ofList _).trans rfl, declaredName?_ofList_append fun _ => rfl,
      (declaredName?_ofList _).trans rfl, (declaredName?_ofList _).trans rfl⟩

theorem declaredBy_sectionTexts (title : String) (body : List Line) :
    declaredBy (sectionTexts title body) = declaredBy (body.map Line.text) := by
  have htitle : declaredName? ("// ---- " ++ title ++ " ----").toList = none := by
    rw [String.append_assoc]
    exact declaredName?_ofList_append fun _ => rfl
  rw [sectionTexts, declaredBy_cons_none htitle, declaredBy_cons_empty, declaredBy_append,
    declaredBy_cons_empty, declaredBy_nil, List.append_nil]

/-- The declarations of the types, by section or by type. -/
theorem perm_declaredNames (types : List TypeSymbol) :
    (types.map (·.stem ++ "Type") ++ types.flatMap (fun t =>
      [t.stem ++ "Relations", t.stem ++ "Relation", t.stem ++ "RelationCategories"]) ++
      types.map (·.stem ++ "TupleKey")).Perm (types.flatMap TypeSymbol.declaredNames) := by
  rw [List.map_eq_flatMap, List.map_eq_flatMap]
  refine (List.Perm.append_right _ (List.flatMap_append_perm _ _ _)).trans ?_
  exact List.flatMap_append_perm _ _ _

/-- **A module declares its names, each once.** -/
theorem declarations_moduleText (h : table.IsPlain) (hn : table.IsNamed) (t : Instant) :
    (declarations (moduleText table t)).Perm table.declaredNames := by
  have htitle : declaredName? "// ---- Metadata ----".toList = none :=
    (declaredName?_ofList _).trans rfl
  have htime : declaredName? (timestampLine t).text.toList = some "GENERATED_AT" := by
    rw [timestampLine, Line.text_flush, timestampPrefix, String.append_assoc]
    exact declaredName?_ofList_append fun _ => rfl
  have hmetadata : declaredName? "export const MODEL_METADATA = \x7b".toList =
      some "MODEL_METADATA" := (declaredName?_ofList _).trans rfl
  simp only [declarations, linesOf_moduleText h, declaredBy_append, declaredBy_header,
    declaredBy_sectionTexts, declaredBy_objectTypes hn.stem, declaredBy_relationGroups hn.stem,
    declaredBy_tupleKeys hn.stem, declaredBy_helpers, declaredBy_cons_none htitle,
    declaredBy_cons_empty, declaredBy_cons_some htime, declaredBy_nil, metadata,
    declaredBy_block hmetadata declaredName?_closing.2]
  -- the names of the types stand between those of every module; only their order differs
  refine List.Perm.trans ?_ (List.Perm.append_left fixedNames (perm_declaredNames table.types))
  rw [fixedNames]
  refine List.perm_iff_count.mpr fun name => ?_
  simp only [List.count_append, List.count_cons, List.count_nil]
  omega

end Module

/-- The module of a model declares no name twice. -/
theorem Model.IsValid.nodup_declarations {m : Model} (h : m.IsValid) (hapart : m.NamesAreApart)
    (t : Instant) : (declarations (Module.moduleText m.table t)).Nodup := by
  have hn : m.table.IsNamed := m.isNamed_table
  exact (Module.declarations_moduleText h.isPlain_table hn t).nodup_iff.mpr
    (SymbolTable.nodup_declaredNames (hapart.nodup_stems h.distinct) hn)

end Relata
