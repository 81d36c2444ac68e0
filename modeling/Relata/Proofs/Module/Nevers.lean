import Relata.Proofs.Module.Declarations
import Relata.Proofs.Source.Entry

/-!
# Types of a module without values

Where there is nothing to name, a module declares a type without values: in the module of a model
without types these are the names of types and the tuple keys, in any other the names of the
relations of each type that has none.

## Main definitions

* `neverTypes` — the types that a text declares to have no values.

## Main results

* `Module.neverTypes_moduleText` — **the types of a module without values.**
-/

namespace Relata

open Source

/-- The types that lines declare to have no values. -/
def neversBy (ls : List String) : List String := ls.filterMap (neverType? ·.toList)

/-- The types that a text declares to have no values, in their order. -/
def neverTypes (source : String) : List String := neversBy (Text.linesOf source)

/-! ### Lists of lines -/

section Lists

variable {ls ls' : List String}

@[simp] theorem neversBy_nil : neversBy [] = [] := rfl

@[simp] theorem neversBy_append : neversBy (ls ++ ls') = neversBy ls ++ neversBy ls' :=
  List.filterMap_append

theorem neversBy_cons_none {l : String} (h : neverType? l.toList = none) :
    neversBy (l :: ls) = neversBy ls :=
  List.filterMap_cons_none h

theorem neversBy_cons_some {l name : String} (h : neverType? l.toList = some name) :
    neversBy (l :: ls) = name :: neversBy ls :=
  List.filterMap_cons_some h

@[simp] theorem neversBy_cons_empty : neversBy ("" :: ls) = neversBy ls := rfl

theorem neversBy_deeper (body : List Line) :
    neversBy ((body.map Line.deeper).map Line.text) = [] :=
  filterMap_deeper neverType?_deeper body

theorem neversBy_block {opening closing : String} {body : List Line}
    (ho : neverType? opening.toList = none) (hc : neverType? closing.toList = none) :
    neversBy ((block opening body closing).map Line.text) = [] := by
  rw [neversBy, filterMap_block neverType?_deeper hc, ho]
  rfl

theorem neversBy_flatMap {α : Type} {f : α → List Line} {as : List α} :
    neversBy ((as.flatMap f).map Line.text) =
      as.flatMap fun a => neversBy ((f a).map Line.text) :=
  filterMap_flatMap_text

end Lists

namespace Module

variable {table : SymbolTable}

/-! ### Sections -/

theorem neversBy_sectionTexts (title : String) (body : List Line) :
    neversBy (sectionTexts title body) = neversBy (body.map Line.text) := by
  have htitle : neverType? ("// ---- " ++ title ++ " ----").toList = none := by
    rw [String.append_assoc]
    exact neverType?_ofList_append fun _ => rfl
  rw [sectionTexts, neversBy_cons_none htitle, neversBy_cons_empty, neversBy_append,
    neversBy_cons_empty, neversBy_nil, List.append_nil]

theorem neverType?_closing : neverType? "\x7d".toList = none ∧
    neverType? "\x7d as const;".toList = none :=
  ⟨(neverType?_ofList _).trans rfl, (neverType?_ofList _).trans rfl⟩

theorem neversBy_objectTypes (table : SymbolTable) :
    neversBy ((objectTypes table).map Line.text) =
      if table.types.isEmpty then ["ObjectTypeName"] else [] := by
  have hconstants : neversBy ((table.types.map typeConstant).map Line.text) = [] := by
    refine List.filterMap_eq_nil_iff.mpr ?_
    simp only [List.forall_mem_map, typeConstant, Line.text_flush, String.append_assoc]
    exact fun t _ => neverType?_ofList_append fun _ => rfl
  have hgap : neversBy ((if table.types.isEmpty then [] else [Line.blank]).map Line.text) = [] := by
    split <;> rfl
  have htable : neverType? "export const ObjectTypes = \x7b".toList = none :=
    (neverType?_ofList _).trans rfl
  simp only [objectTypes, List.map_append, List.map_cons, List.map_nil, Line.text_flush,
    Line.text_blank, neversBy_append, hconstants, hgap, neversBy_block htable neverType?_closing.2,
    neversBy_cons_empty, List.nil_append]
  split
  · exact neversBy_cons_some ((neverType?_ofList _).trans rfl)
  · exact neversBy_cons_none ((neverType?_ofList _).trans rfl)

/-- The declarations of constants declare no types. -/
theorem neverType?_const (stem rest : String) :
    neverType? ("export const " ++ stem ++ rest).toList = none := by
  rw [String.append_assoc]
  exact neverType?_ofList_append fun _ => rfl

/-- The type of the relations of a type has no values if there are no relations. -/
theorem neversBy_relationTable {t : TypeSymbol} (h : IsStem t.stem) :
    neversBy ((relationTable t).map Line.text) =
      if t.relations.isEmpty then [t.stem ++ "Relation"] else [] := by
  have hname : IsIdentifier (t.stem ++ "Relation") := h.isIdentifier_append (by decide)
  rw [relationTable]
  split
  · have hnever : neverType? ("export type " ++ t.stem ++ "Relation = never;").toList =
        some (t.stem ++ "Relation") := by
      have htext : "export type " ++ t.stem ++ "Relation = never;" =
          "export type " ++ (t.stem ++ "Relation" ++ " = never;") := by
        simp only [String.append_assoc]
        rfl
      rw [htext, neverType?_append hname.ne_nil hname.chars (by rintro _ ⟨⟩; decide)]
      rfl
    simp only [List.map_cons, List.map_nil, Line.text_flush]
    rw [neversBy_cons_none (neverType?_const _ _), neversBy_cons_some hnever, neversBy_nil]
  · have hvalues : neverType? ("export type " ++ t.stem ++ "Relation = (typeof " ++ t.stem ++
        "Relations)[keyof typeof " ++ t.stem ++ "Relations];").toList = none := by
      have htext : "export type " ++ t.stem ++ "Relation = (typeof " ++ t.stem ++
          "Relations)[keyof typeof " ++ t.stem ++ "Relations];" =
            "export type " ++ (t.stem ++ "Relation" ++ (" = (typeof " ++ (t.stem ++
              ("Relations)[keyof typeof " ++ (t.stem ++ "Relations];"))))) := by
        simp only [String.append_assoc]
        rfl
      have hrest : ∀ s : String, (" = (typeof " ++ s).toList =
          ' ' :: '=' :: ' ' :: '(' :: ("typeof ".toList ++ s.toList) := by
        simp
      rw [htext, neverType?_append hname.ne_nil hname.chars, hrest, if_neg (by simp)]
      rw [hrest]
      rintro _ ⟨⟩
      decide
    rw [List.map_append, neversBy_append,
      neversBy_block (neverType?_const _ _) neverType?_closing.2, List.map_singleton,
      Line.text_flush, neversBy_cons_none hvalues]
    rfl

theorem neversBy_relationGroup {t : TypeSymbol} (h : IsStem t.stem) :
    neversBy ((relationGroup t ++ [Line.blank]).map Line.text) =
      if t.relations.isEmpty then [t.stem ++ "Relation"] else [] := by
  have hblank : neversBy ([Line.blank].map Line.text) = [] := rfl
  rw [relationGroup, categoryTable, List.map_append, List.map_append, neversBy_append,
    neversBy_append, neversBy_relationTable h,
    neversBy_block (neverType?_const _ _) neverType?_closing.2, hblank, List.append_nil,
    List.append_nil]

theorem neversBy_relationGroups (h : ∀ t ∈ table.types, IsStem t.stem) :
    neversBy ((relationGroups table).map Line.text) =
      (table.types.filter (·.relations.isEmpty)).map (·.stem ++ "Relation") := by
  have hgroups : neversBy ((table.types.flatMap fun t => relationGroup t ++ [.blank]).map
      Line.text) = (table.types.filter (·.relations.isEmpty)).map (·.stem ++ "Relation") := by
    rw [neversBy_flatMap, List.flatMap_congr fun t ht => neversBy_relationGroup (h t ht)]
    clear h
    induction table.types with
    | nil => rfl
    | cons t types ih =>
      rw [List.flatMap_cons, ih, List.filter_cons]
      split <;> rfl
  have hmap : neverType? "export interface RelationMap \x7b".toList = none :=
    (neverType?_ofList _).trans rfl
  have hobject : neverType? "export const RelationsByObject = \x7b".toList = none :=
    (neverType?_ofList _).trans rfl
  rw [relationGroups, List.map_append, List.map_append, neversBy_append, neversBy_append, hgroups,
    neversBy_block hmap neverType?_closing.1, List.map_cons, Line.text_blank, neversBy_cons_empty,
    neversBy_block hobject neverType?_closing.2, List.append_nil, List.append_nil]

theorem neversBy_conditionNames (conditions : List String) :
    neversBy ((conditionNames conditions).map Line.text) = [] := by
  have hnames : neverType? ("export const ConditionNames = " ++ stringList conditions ++
      " as const;").toList = none := by
    rw [String.append_assoc]
    exact neverType?_ofList_append fun _ => rfl
  -- without conditions any text is a name of one, so this type has values too
  have hname : neverType? (if conditions.isEmpty then "export type ConditionName = string;"
      else "export type ConditionName = (typeof ConditionNames)[number];").toList = none := by
    split <;> exact (neverType?_ofList _).trans rfl
  simp only [conditionNames, List.map_cons, List.map_nil, Line.text_flush]
  rw [neversBy_cons_none hnames, neversBy_cons_none hname, neversBy_nil]

theorem neversBy_tupleKeyInterface (t : TypeSymbol) :
    neversBy ((tupleKeyInterface t ++ [Line.blank]).map Line.text) = [] := by
  have hopening : neverType? ("export interface " ++ t.stem ++ "TupleKey \x7b").toList = none := by
    rw [String.append_assoc]
    exact neverType?_ofList_append fun _ => rfl
  rw [List.map_append, neversBy_append, tupleKeyInterface,
    neversBy_block hopening neverType?_closing.1]
  rfl

/-- The union of the tuple keys has no values if there are no types. -/
theorem neversBy_tupleKeyUnion (types : List TypeSymbol) :
    neversBy ((tupleKeyUnion types).map Line.text) =
      if types.isEmpty then ["TupleKey"] else [] := by
  rw [tupleKeyUnion]
  split
  · exact neversBy_cons_some ((neverType?_ofList _).trans rfl)
  · rw [List.map_cons, Line.text_flush, neversBy_cons_none ((neverType?_ofList _).trans rfl),
      neversBy_deeper]

theorem neversBy_tupleKeys (table : SymbolTable) :
    neversBy ((tupleKeys table).map Line.text) =
      if table.types.isEmpty then ["TupleKey"] else [] := by
  have hcondition : neverType? "export interface TupleKeyCondition \x7b".toList = none :=
    (neverType?_ofList _).trans rfl
  have hinterfaces : neversBy ((table.types.flatMap fun t =>
      tupleKeyInterface t ++ [.blank]).map Line.text) = [] := by
    rw [neversBy_flatMap, List.flatMap_eq_nil_iff]
    exact fun t _ => neversBy_tupleKeyInterface t
  have hmap : neverType? "export interface TupleKeyMap \x7b".toList = none :=
    (neverType?_ofList _).trans rfl
  simp only [tupleKeys, conditionInterface, List.map_append, List.map_cons, Line.text_blank,
    neversBy_append, neversBy_cons_empty, neversBy_conditionNames,
    neversBy_block hcondition neverType?_closing.1, hinterfaces,
    neversBy_block hmap neverType?_closing.1, neversBy_tupleKeyUnion, List.nil_append]

theorem neversBy_helpers : neversBy (Helpers.lines.map Line.text) = [] := by
  have hformat : neverType? (Helpers.formatObject.headD "").toList = none :=
    neverType?_ofList_append fun _ => rfl
  have hlines : ∀ d ∈ Helpers.declarations, ∀ line ∈ d, neverType? line.toList = none := by
    simp only [Helpers.formatObject, List.headD_cons] at hformat
    simp only [Helpers.declarations, Helpers.emptyIdentifierError, Helpers.unknownRelationError,
      Helpers.parsedObject, Helpers.isObjectType, Helpers.formatObject, Helpers.parseObject,
      Helpers.isValidRelation, Helpers.buildTupleKey, List.forall_mem_cons, List.not_mem_nil,
      false_implies, implies_true, and_true, hformat, true_and]
    and_intros <;> exact (neverType?_ofList _).trans rfl
  refine List.filterMap_eq_nil_iff.mpr ?_
  simp only [Helpers.lines, List.forall_mem_map, Line.text_flush]
  intro line hline
  rcases Helpers.mem_separate hline with rfl | ⟨d, hd, hline⟩
  · rfl
  · exact hlines d hd line hline

theorem neversBy_header (table : SymbolTable) : neversBy ((header table).map Line.text) = [] := by
  refine List.filterMap_eq_nil_iff.mpr ?_
  cases h : table.modelId
  all_goals
    simp only [header, h, List.map_cons, List.map_nil, Line.text_flush, Line.text_blank,
      List.forall_mem_cons, List.not_mem_nil, false_implies, implies_true, and_true,
      String.append_assoc]
    exact ⟨(neverType?_ofList _).trans rfl, neverType?_ofList_append fun _ => rfl,
      (neverType?_ofList _).trans rfl, (neverType?_ofList _).trans rfl⟩

/-- The types of a module without values. -/
theorem neverTypes_moduleText (h : table.IsPlain) (hn : table.IsNamed) (t : Instant) :
    neverTypes (moduleText table t) = if table.types.isEmpty then ["ObjectTypeName", "TupleKey"]
      else (table.types.filter (·.relations.isEmpty)).map (·.stem ++ "Relation") := by
  have htitle : neverType? "// ---- Metadata ----".toList = none := (neverType?_ofList _).trans rfl
  have htime : neverType? (timestampLine t).text.toList = none := by
    rw [timestampLine, Line.text_flush, timestampPrefix, String.append_assoc]
    exact neverType?_ofList_append fun _ => rfl
  have hmetadata : neverType? "export const MODEL_METADATA = \x7b".toList = none :=
    (neverType?_ofList _).trans rfl
  simp only [neverTypes, linesOf_moduleText h, neversBy_append, neversBy_header,
    neversBy_sectionTexts, neversBy_objectTypes, neversBy_relationGroups hn.stem,
    neversBy_tupleKeys, neversBy_helpers, neversBy_cons_none htitle, neversBy_cons_none htime,
    neversBy_cons_empty, neversBy_nil, metadata, neversBy_block hmetadata neverType?_closing.2,
    List.nil_append, List.append_nil]
  split
  · next hempty => simp [List.isEmpty_iff.mp hempty]
  · simp

end Module

end Relata
