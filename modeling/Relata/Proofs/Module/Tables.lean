import Relata.Proofs.Module.Declarations
import Relata.Proofs.Reference
import Relata.Proofs.Source.Property

/-!
# Tables of a module

The tables of relations are read off the text of a module: the table of a name is what stands behind
the line that declares it, as far as the lines are indented. What the tables say about a type and a
relation is what the model and its symbol table say.

## Main definitions

* `bodyOf` — the body of the declaration of a name.
* `tableOf` — the table that a text declares under a name.
* `SymbolTable.AgreesWith` — model, symbol table and module agree on every type and relation.

## Main results

* `bodyOf_block` — the body of a block of lines.
* `Model.IsValid.tableOf_relationsByObject`, `Model.IsValid.tableOf_categories` — the tables that
  are read off a module.
* `agreesWith_of_generateAt` — **a model, its symbol table and its module agree.**
-/

namespace Relata

open Source

/-! ### Bodies of declarations -/

/-- The body of the declaration of a name: the indented lines behind the line that declares it. -/
def bodyOf (name : String) (ls : List String) : List String :=
  ((ls.dropWhile fun l => declaredName? l.toList ≠ some name).drop 1).takeWhile
    fun l => l.toList.head? = some ' '

/-- The table that a text declares under a name, if each line of the body is a list property. -/
def tableOf (name source : String) : Option (List (String × List String)) :=
  (bodyOf name (Text.linesOf source)).mapM (listProperty? ·.toList)

section Bodies

variable {name opening closing next : String} {body : List Line} {ls : List String}

/-- The body of a declaration, where no name is declared twice: all indented lines behind it. -/
theorem bodyOf_lines (h : opening :: (body.map (·.deeper.text) ++ [next]) <:+: ls)
    (hnodup : (declaredBy ls).Nodup) (ho : declaredName? opening.toList = some name)
    (hbody : ∀ l ∈ body, l.content ≠ "") (hnext : next.toList.head? ≠ some ' ') :
    bodyOf name ls = body.map (·.deeper.text) := by
  obtain ⟨before, after, rfl⟩ := h
  have hlines : before ++ opening :: (body.map (·.deeper.text) ++ [next]) ++ after =
      before ++ opening :: (body.map (·.deeper.text) ++ next :: after) := by
    simp
  rw [hlines] at hnodup ⊢
  have hbefore : ∀ l ∈ before, decide (declaredName? l.toList ≠ some name) = true := by
    intro l hl
    exact decide_eq_true (declaredName?_ne_of_nodup ho hnodup l (List.mem_append_left _ hl))
  have hindented : ∀ l ∈ body.map (·.deeper.text), decide (l.toList.head? = some ' ') = true :=
    List.forall_mem_map.mpr fun l hl => decide_eq_true (Line.head?_text_deeper (hbody l hl))
  rw [bodyOf, List.dropWhile_append_of_pos hbefore, List.dropWhile_cons_of_neg (by simp [ho]),
    List.drop_one, List.tail_cons, List.takeWhile_append_of_pos hindented,
    List.takeWhile_cons_of_neg (by simpa using hnext), List.append_nil]

/-- The lines of a block. -/
theorem text_block (opening : String) (body : List Line) (closing : String) :
    (block opening body closing).map Line.text =
      opening :: (body.map (·.deeper.text) ++ [closing]) := by
  simp [block]

/-- The body of a block of lines, where no name is declared twice. -/
theorem bodyOf_block (hblock : (block opening body closing).map Line.text <:+: ls)
    (hnodup : (declaredBy ls).Nodup) (ho : declaredName? opening.toList = some name)
    (hbody : ∀ l ∈ body, l.content ≠ "") (hc : closing.toList.head? ≠ some ' ') :
    bodyOf name ls = body.map (·.deeper.text) :=
  bodyOf_lines (text_block opening body closing ▸ hblock) hnodup ho hbody hc

end Bodies

section Reading

variable {α β γ : Type} {as : List α}

/-- What is read of elements one by one. -/
theorem mapM_map_eq_some {read : β → Option γ} {f : α → β} {g : α → γ}
    (h : ∀ a ∈ as, read (f a) = some (g a)) : (as.map f).mapM read = some (as.map g) := by
  induction as with
  | nil => rfl
  | cons a as ih =>
    rw [List.forall_mem_cons] at h
    rw [List.map_cons, List.mapM_cons, h.1, ih h.2]
    rfl

variable {read : List Char → Option γ} {entry : α → Line} {f : α → γ}

/-- A line that is read is not empty. -/
theorem content_ne_of_read (hempty : read [] = none)
    (h : ∀ a ∈ as, read (entry a).deeper.text.toList = some (f a)) :
    ∀ l ∈ as.map entry, l.content ≠ "" := by
  refine List.forall_mem_map.mpr fun a ha hcontent => ?_
  have htext : (entry a).deeper.text.toList = [] := by
    rw [Line.text, Line.content_deeper, if_pos hcontent]
    rfl
  have hread := h a ha
  rw [htext, hempty] at hread
  cases hread

theorem mapM_text_deeper (h : ∀ a ∈ as, read (entry a).deeper.text.toList = some (f a)) :
    ((as.map entry).map (·.deeper.text)).mapM (read ·.toList) = some (as.map f) := by
  rw [List.map_map]
  exact mapM_map_eq_some h

/-- The table of a block of properties, where no name is declared twice. -/
theorem tableOf_block {entry : α → Line} {f : α → String × List String}
    {name source opening closing : String}
    (hblock : (block opening (as.map entry) closing).map Line.text <:+: Text.linesOf source)
    (hnodup : (declarations source).Nodup) (ho : declaredName? opening.toList = some name)
    (hc : closing.toList.head? ≠ some ' ')
    (h : ∀ a ∈ as, listProperty? (entry a).deeper.text.toList = some (f a)) :
    tableOf name source = some (as.map f) := by
  rw [tableOf, bodyOf_block hblock hnodup ho (content_ne_of_read rfl h) hc]
  exact mapM_text_deeper h

end Reading

/-! ### Tables -/

namespace Module

variable {table : SymbolTable}

/-- The lines of a section stand in it, in front of an empty line. -/
theorem infix_sectionTexts (title : String) (body : List Line) :
    body.map Line.text ++ [""] <:+: sectionTexts title body :=
  (List.suffix_append ["// ---- " ++ title ++ " ----", ""] _).isInfix

theorem infix_objectTypes (h : table.IsPlain) (t : Instant) :
    (objectTypes table).map Line.text ++ [""] <:+: Text.linesOf (moduleText table t) := by
  refine (infix_sectionTexts "Object types" (objectTypes table)).trans ?_
  rw [linesOf_moduleText h]
  simp only [List.append_assoc]
  exact List.infix_append' _ _ _

theorem infix_relationGroups (h : table.IsPlain) (t : Instant) :
    (relationGroups table).map Line.text ++ [""] <:+: Text.linesOf (moduleText table t) := by
  refine (infix_sectionTexts "Relations" (relationGroups table)).trans ?_
  rw [linesOf_moduleText h]
  simp only [List.append_assoc]
  rw [← List.append_assoc]
  exact List.infix_append' _ _ _

theorem infix_tupleKeys (h : table.IsPlain) (t : Instant) :
    (tupleKeys table).map Line.text ++ [""] <:+: Text.linesOf (moduleText table t) := by
  refine (infix_sectionTexts "Tuple keys" (tupleKeys table)).trans ?_
  rw [linesOf_moduleText h]
  simp only [List.append_assoc]
  rw [← List.append_assoc, ← List.append_assoc]
  exact List.infix_append' _ _ _

/-- What stands among the lines of a section stands in every text that the section stands in. -/
theorem infix_text {ls body : List Line} {texts : List String} (hls : ls <:+: body)
    (h : body.map Line.text ++ [""] <:+: texts) : ls.map Line.text <:+: texts :=
  ((hls.map Line.text).trans (List.prefix_append _ _).isInfix).trans h

theorem infix_relationsByObject (table : SymbolTable) :
    block "export const RelationsByObject = \x7b" (table.types.map relationsByObjectEntry)
      "\x7d as const;" <:+: relationGroups table := by
  rw [relationGroups]
  exact (List.suffix_cons _ _).isInfix.trans (List.suffix_append _ _).isInfix

theorem infix_relationGroup {t : TypeSymbol} (ht : t ∈ table.types) :
    relationGroup t <:+: relationGroups table := by
  have hgroups : relationGroup t ++ [.blank] <:+:
      table.types.flatMap fun t => relationGroup t ++ [.blank] := by
    rw [List.flatMap_def]
    exact List.infix_of_mem_flatten (List.mem_map_of_mem ht)
  rw [relationGroups, List.append_assoc]
  exact ((List.prefix_append _ _).isInfix.trans hgroups).trans (List.prefix_append _ _).isInfix

theorem infix_categoryTable {t : TypeSymbol} (ht : t ∈ table.types) :
    categoryTable t <:+: relationGroups table :=
  (List.suffix_append _ _).isInfix.trans (infix_relationGroup ht)

/-- The entry of a type in the table of relation names is read back. -/
theorem listProperty?_relationsByObjectEntry (t : TypeSymbol) :
    listProperty? (relationsByObjectEntry t).deeper.text.toList =
      some (t.name, t.relationNames) := by
  have hcontent : (relationsByObjectEntry t).content ≠ "" := by
    rw [relationsByObjectEntry]
    simp
  rw [Line.text_deeper hcontent, relationsByObjectEntry, Line.text_flush]
  simp only [String.append_assoc]
  exact listProperty?_propertyKey t.name t.relationNames

/-- The entry of a category is read back. -/
theorem listProperty?_categoryEntry (t : TypeSymbol) (c : Category) :
    listProperty? (categoryEntry t c).deeper.text.toList = some (c.name, t.namesIn c) := by
  have hcontent : (categoryEntry t c).content ≠ "" := by
    rw [categoryEntry]
    simp
  have hword : ∀ d ∈ c.name.toList, isIdentifierChar d = true := by cases c <;> decide
  have hne : c.name.toList ≠ [] := by cases c <;> decide
  have hproto : String.ofList c.name.toList ≠ "__proto__" := by cases c <;> decide
  have hread : ∀ rest, readKey (c.name.toList ++ ':' :: rest) = some (c.name, ':' :: rest) := by
    intro rest
    rw [readKey_word hne hword hproto (by rintro _ ⟨⟩; decide), String.ofList_toList]
  rw [Line.text_deeper hcontent, categoryEntry, Line.text_flush]
  simp only [String.append_assoc]
  exact listProperty?_entry _ hread (by cases c <;> rintro _ ⟨⟩ <;> decide)

end Module

namespace Model

variable {m : Model}

/-- The table of relation names lists the relations of each type. -/
theorem IsValid.tableOf_relationsByObject (h : m.IsValid) (hapart : m.NamesAreApart) (t : Instant) :
    tableOf "RelationsByObject" (Module.moduleText m.table t) =
      some (m.table.types.map fun s => (s.name, s.relationNames)) := by
  have hinfix := Module.infix_text (Module.infix_relationsByObject m.table)
    (Module.infix_relationGroups h.isPlain_table t)
  have hopening : declaredName? "export const RelationsByObject = \x7b".toList =
      some "RelationsByObject" := (declaredName?_ofList _).trans rfl
  exact tableOf_block hinfix (h.nodup_declarations hapart t) hopening (by decide)
    fun s _ => Module.listProperty?_relationsByObjectEntry s

/-- The table of categories of a type lists its relations by category. -/
theorem IsValid.tableOf_categories (h : m.IsValid) (hapart : m.NamesAreApart) (t : Instant)
    {s : TypeSymbol} (hs : s ∈ m.table.types) :
    tableOf (s.stem ++ "RelationCategories") (Module.moduleText m.table t) =
      some (Category.all.map fun c => (c.name, s.namesIn c)) := by
  have hinfix := Module.infix_text (Module.infix_categoryTable hs)
    (Module.infix_relationGroups h.isPlain_table t)
  have hopening : declaredName? ("export const " ++ s.stem ++ "RelationCategories = \x7b").toList =
      some (s.stem ++ "RelationCategories") :=
    declaredName?_stem_end (m.isNamed_table.stem s hs) (fun _ => rfl) (fun _ => rfl)
  exact tableOf_block hinfix (h.nodup_declarations hapart t) hopening (by decide)
    fun c _ => Module.listProperty?_categoryEntry s c

end Model

/-! ### Agreement -/

/-- Of relations with distinct names, those of a category are the ones found with that category. -/
theorem TypeSymbol.mem_namesIn {s : TypeSymbol} (h : s.relationNames.Nodup) {name : String}
    {c : Category} : name ∈ s.namesIn c ↔ (s.relation? name).map (·.category) = some c := by
  simp only [namesIn, List.mem_map, List.mem_filter, decide_eq_true_eq, Option.map_eq_some_iff]
  constructor
  · rintro ⟨r, ⟨hr, hc⟩, rfl⟩
    exact ⟨r, find?_name_eq h hr, hc⟩
  · rintro ⟨r, hr, hc⟩
    have hname : r.name = name := by simpa using List.find?_some hr
    exact ⟨r, ⟨List.mem_of_find?_eq_some hr, hc⟩, hname⟩

/-- Only the array of its category lists a relation. -/
theorem TypeSymbol.filter_categories {s : TypeSymbol} (h : s.relationNames.Nodup) (name : String) :
    ((Category.all.map fun c => (c.name, s.namesIn c)).filter (·.2.contains name)).map Prod.fst =
      ((s.relation? name).map (·.category.name)).toList := by
  have hcontains : ∀ c, (s.namesIn c).contains name =
      decide ((s.relation? name).map (·.category) = some c) := by
    intro c
    rw [Bool.eq_iff_iff, List.contains_iff_mem, decide_eq_true_eq]
    exact mem_namesIn h
  rw [List.filter_map, List.map_map]
  simp only [Function.comp_def, hcontains]
  cases s.relation? name with
  | none => rfl
  | some r =>
    simp only [Option.map_some, Option.some.injEq]
    cases r.category <;> rfl

theorem TypeSymbol.hasRelation_eq_true {s : TypeSymbol} {name : String} :
    s.hasRelation name = true ↔ name ∈ s.relationNames := by
  simp [hasRelation, relation?, relationNames]

namespace SymbolTable

variable {table : SymbolTable}

/-- Of types with distinct names, the one found under a name is the one of that name. -/
theorem type?_eq_some (h : table.typeNames.Nodup) {name : String} {s : TypeSymbol} :
    table.type? name = some s ↔ s ∈ table.types ∧ s.name = name := by
  constructor
  · intro hs
    exact ⟨List.mem_of_find?_eq_some hs, by simpa using List.find?_some hs⟩
  · rintro ⟨hs, rfl⟩
    exact find?_name_eq h hs

/-- A relation is valid if an entry of its type lists it. -/
theorem isValidRelation_eq_true (h : table.typeNames.Nodup) {type relation : String} :
    table.isValidRelation type relation = true ↔
      ∃ names, (type, names) ∈ table.types.map (fun s => (s.name, s.relationNames)) ∧
        relation ∈ names := by
  simp only [isValidRelation, Option.any_eq_true, type?_eq_some h, TypeSymbol.hasRelation_eq_true,
    List.mem_map, Prod.mk.injEq]
  constructor
  · rintro ⟨s, ⟨hs, rfl⟩, hrelation⟩
    exact ⟨s.relationNames, ⟨s, hs, rfl, rfl⟩, hrelation⟩
  · rintro ⟨-, ⟨s, hs, rfl, rfl⟩, hrelation⟩
    exact ⟨s, ⟨hs, rfl⟩, hrelation⟩

/-- A reference to an object of a type is read if the table has the type. -/
theorem isSome_parseObject {type id : String} (hid : id ≠ "") (h : objectSeparator ∉ type.toList) :
    (table.parseObject (referenceText type id)).isSome = (table.type? type).isSome := by
  rw [Bool.eq_iff_iff, Option.isSome_iff_exists]
  constructor
  · rintro ⟨o, ho⟩
    obtain ⟨hnot, -, htype, htext⟩ := parseObject_eq_some.mp ho
    exact (referenceText_inj hnot h htext).1 ▸ htype
  · exact fun htype => ⟨⟨type, id⟩, parseObject_eq_some.mpr ⟨h, hid, htype, rfl⟩⟩

/-- A symbol table, its model and the text of its module agree on every type and relation, known or
not. -/
structure AgreesWith (table : SymbolTable) (m : Model) (source : String) : Prop where
  relation : ∀ type relation, table.isValidRelation type relation = m.hasRelation type relation
  reference : ∀ type, objectSeparator ∉ type.toList →
    (table.parseObject (type ++ ":x")).isSome = (m.typeNamed? type).isSome
  /-- The table of relation names has the types as its keys, each once, with their relations. -/
  entries : ∃ entries, tableOf "RelationsByObject" source = some entries ∧
    (entries.map Prod.fst).Nodup ∧
    (∀ type, type ∈ entries.map Prod.fst ↔ (m.typeNamed? type).isSome = true) ∧
    ∀ type relation, (∃ names, (type, names) ∈ entries ∧ relation ∈ names) ↔
      m.hasRelation type relation = true
  /-- In the table of the categories of a type, one array lists a relation of the type, that of the
  category, and no array lists anything else. -/
  category : ∀ type s, table.type? type = some s →
    ∃ arrays, tableOf (s.stem ++ "RelationCategories") source = some arrays ∧
      ∀ relation, (arrays.filter (·.2.contains relation)).map Prod.fst =
        ((s.relation? relation).map (·.category.name)).toList

end SymbolTable

/-- **A model, its symbol table and its module agree** on every type and every relation. -/
theorem agreesWith_of_generateAt {m : Model} {t : Instant} {g : GeneratedModule}
    (h : m.generateAt t = .ok g) :
    ∃ table, SymbolTable.build m = .ok table ∧ table.AgreesWith m g.source := by
  obtain ⟨hvalid, hapart, rfl⟩ := Model.generateAt_eq_ok.mp h
  have hnames : m.table.typeNames = m.types.map (·.name) := by
    rw [SymbolTable.typeNames, Model.table, List.map_map]
    rfl
  have htypes : m.table.typeNames.Nodup := hnames ▸ hvalid.distinct.types
  have hrelations : ∀ s ∈ m.table.types, s.relationNames.Nodup := by
    refine List.forall_mem_map.mpr fun t ht => ?_
    rw [TypeDefinition.relationNames_symbol]
    exact hvalid.distinct.relations t ht
  have hkeys : (m.table.types.map fun s => (s.name, s.relationNames)).map Prod.fst =
      m.table.typeNames := by
    rw [List.map_map]
    rfl
  refine ⟨m.table, SymbolTable.build_eq_ok.mpr ⟨rfl, hapart⟩,
    SymbolTable.isValidRelation_table m, fun type htype => ?_,
    ⟨_, hvalid.tableOf_relationsByObject hapart t, hkeys ▸ htypes, fun type => ?_,
      fun type relation => ?_⟩, fun type s hs => ?_⟩
  · have htext : type ++ ":x" = referenceText type "x" := by
      rw [referenceText, String.append_assoc]
      rfl
    rw [htext, SymbolTable.isSome_parseObject (by decide) htype, SymbolTable.type?_table,
      Option.isSome_map]
  · rw [hkeys, hnames]
    simp [Model.typeNamed?]
  · rw [← SymbolTable.isValidRelation_table, SymbolTable.isValidRelation_eq_true htypes]
  · have hmem : s ∈ m.table.types := ((SymbolTable.type?_eq_some htypes).mp hs).1
    exact ⟨_, hvalid.tableOf_categories hapart t hmem,
      TypeSymbol.filter_categories (hrelations s hmem)⟩

/-- Documents with relations of every category, and a type that is called like a prototype. -/
def sharedPrototypes : Model where
  id := none
  schemaVersion := "1.1"
  types := [⟨"__proto__", []⟩,
    ⟨"doc\"s", [⟨"parent", .direct [⟨"doc\"s", .object, none⟩]⟩,
      ⟨"owner", .direct [⟨"__proto__", .object, none⟩]⟩,
      ⟨"editor", .computed "owner"⟩,
      ⟨"__proto__", .fromTupleset "parent" "editor"⟩,
      ⟨"reader", .difference (.direct [⟨"__proto__", .wildcard, none⟩])
        (.direct [⟨"__proto__", .object, none⟩])⟩]⟩]
  conditions := []

theorem agreesWith_sharedPrototypes : ∃ g, sharedPrototypes.generateAt default = .ok g ∧
    ∃ table, SymbolTable.build sharedPrototypes = .ok table ∧
      table.AgreesWith sharedPrototypes g.source := by
  have h := Model.generateAt_of_problems_eq_nil (m := sharedPrototypes) (by decide) (by decide)
    default
  exact ⟨_, h, agreesWith_of_generateAt h⟩

end Relata
