import Relata.Proofs.Module.Declarations

/-!
# The skeleton of a module

What sort of line stands at which place of a module depends on the shape of its model only: on how
many types there are and how many relations each of them has. No name, id or other text of a model
adds a line, ends one or turns it into one of another sort.

## Main definitions

* `LineKind`, `lineKind` — the sorts of lines, told by how a line starts.
* `Model.relationCounts`, `Module.skeleton` — the shape of a model, and the sorts of the lines of
  its module.
* `HasKinds` — a text of lines of given sorts, each ended by a line feed.
* `HasFlatHeader` — a text that starts with three comments and an empty line.

## Main results

* `Module.hasKinds_moduleText` — the lines of a module, sort by sort.
* `Module.hasFlatHeader_moduleText` — the start of the module of any table.
* `hasKinds_and_hasFlatHeader` — **models of one shape have modules of one structure.**
-/

namespace Relata

open Source

/-! ### Sorts of lines -/

/-- The sorts of lines. -/
inductive LineKind
  | blank
  | comment
  /-- The comment over a section. -/
  | heading
  /-- The first line of a declaration, with the word that introduces it. -/
  | declaration (word : String)
  /-- A line that starts with a closing brace. -/
  | closing (indent : ℕ)
  /-- Any other line. -/
  | entry (indent : ℕ)
  deriving DecidableEq, Repr

/-- The word behind `export` that introduces the declaration on a line. -/
def declarationWord? (line : List Char) : Option String :=
  (declarationWords.find? fun word =>
    (['e', 'x', 'p', 'o', 'r', 't', ' '] ++ word ++ [' ']).isPrefixOf line).map String.ofList

/-- The sort of a line that declares nothing, from its indentation and what is behind it. -/
def plainKind (indent : ℕ) : List Char → LineKind
  | [] => .blank
  | c :: rest =>
    if c = '/' then
      if ['/', ' ', '-', '-', '-', '-', ' '].isPrefixOf rest then .heading else .comment
    else if c = '\x7d' then .closing indent
    else .entry indent

/-- The sort of a line. -/
def lineKind (line : List Char) : LineKind :=
  match declarationWord? line with
  | some word => .declaration word
  | none => plainKind (line.takeWhile (· = ' ')).length (line.dropWhile (· = ' '))

/-- A text of lines of the given sorts. Every line is ended by a line feed, and there are no other
line ends. -/
structure HasKinds (source : String) (kinds : List LineKind) : Prop where
  sorts : (Text.linesOf source).map (lineKind ·.toList) = kinds
  ended : source = Text.unlines (Text.linesOf source)
  feeds : source.toList.count '\n' = kinds.length
  noReturn : '\r' ∉ source.toList

/-- The characters that end a line of a text or of code. -/
def lineBreaks : List Char := ['\n', '\r', '\u2028', '\u2029']

/-- A text without such characters. -/
def IsUnbroken (s : String) : Prop := ∀ c ∈ s.toList, c ∉ lineBreaks

/-- A text that starts with three comments, each on one line, and an empty line. A section
follows. -/
def HasFlatHeader (source : String) : Prop :=
  ∃ (comments : List String) (rest : String),
    source = Text.unlines (comments ++ ["", "// ---- Object types ----"]) ++ rest ∧
      comments.length = 3 ∧ ∀ line ∈ comments, lineKind line.toList = .comment ∧ IsUnbroken line

/-! ### Shapes -/

/-- How many relations each of the types has. -/
def Model.relationCounts (m : Model) : List ℕ := m.types.map (·.relations.length)

/-- How many relations each of the types has. -/
def SymbolTable.relationCounts (table : SymbolTable) : List ℕ :=
  table.types.map (·.relations.length)

theorem Model.relationCounts_table (m : Model) : m.table.relationCounts = m.relationCounts := by
  simp [SymbolTable.relationCounts, Model.table, Model.relationCounts, TypeDefinition.symbol]

namespace Module

/-- The sorts of the lines of a block with `n` entries. -/
def blockKinds (word : String) (n : ℕ) : List LineKind :=
  LineKind.declaration word :: List.replicate n (LineKind.entry 2) ++ [LineKind.closing 0]

/-- The sorts of the lines of the object types. -/
def objectTypesKinds (shape : List ℕ) : List LineKind :=
  List.replicate shape.length (LineKind.declaration "const") ++
  (if shape.isEmpty then [] else [LineKind.blank]) ++
  blockKinds "const" shape.length ++ [LineKind.blank, LineKind.declaration "type"]

/-- The sorts of the lines of a type with `n` relations. -/
def relationGroupKinds (n : ℕ) : List LineKind :=
  (if n = 0 then [LineKind.declaration "const"] else blockKinds "const" n) ++
  LineKind.declaration "type" :: blockKinds "const" 4

/-- The sorts of the lines of the relations. -/
def relationGroupsKinds (shape : List ℕ) : List LineKind :=
  shape.flatMap (fun n => relationGroupKinds n ++ [LineKind.blank]) ++
  blockKinds "interface" shape.length ++ LineKind.blank :: blockKinds "const" shape.length

/-- The sorts of the lines of the tuple keys. -/
def tupleKeysKinds (shape : List ℕ) : List LineKind :=
  [LineKind.declaration "const", LineKind.declaration "type", LineKind.blank] ++
  blockKinds "interface" 2 ++
  LineKind.blank :: shape.flatMap (fun _ => blockKinds "interface" 5 ++ [LineKind.blank]) ++
  blockKinds "interface" shape.length ++
  LineKind.blank :: LineKind.declaration "type" ::
    List.replicate shape.length (LineKind.entry 2)

/-- The sorts of the lines of the metadata. -/
def metadataKinds (shape : List ℕ) : List LineKind :=
  LineKind.declaration "const" :: List.replicate 6 (LineKind.entry 2) ++
  List.replicate shape.length (LineKind.entry 4) ++
  [LineKind.closing 2, LineKind.entry 2, LineKind.closing 0]

/-- The sorts of the lines of a section. -/
def sectionKinds (body : List LineKind) : List LineKind :=
  LineKind.heading :: LineKind.blank :: (body ++ [LineKind.blank])

/-- The sorts of lines. -/
def kinds (ls : List Line) : List LineKind := ls.map (lineKind ·.text.toList)

/-- The sorts of the lines of a module. -/
def skeleton (shape : List ℕ) : List LineKind :=
  [LineKind.comment, LineKind.comment, LineKind.comment, LineKind.blank] ++
  sectionKinds (objectTypesKinds shape) ++ sectionKinds (relationGroupsKinds shape) ++
  sectionKinds (tupleKeysKinds shape) ++ sectionKinds (kinds Helpers.lines) ++
  [LineKind.heading, LineKind.blank, LineKind.declaration "const", LineKind.blank] ++
  metadataKinds shape

end Module

/-! ### Lines -/

theorem lineKind_ofList (cs : List Char) : lineKind (String.ofList cs).toList = lineKind cs := by
  rw [String.toList_ofList]

/-- A line whose start tells its sort. -/
theorem lineKind_ofList_append {cs : List Char} {rest : String} {kind : LineKind}
    (h : ∀ s, lineKind (cs ++ s) = kind) : lineKind (String.ofList cs ++ rest).toList = kind := by
  rw [String.toList_append, String.toList_ofList]
  exact h rest.toList

/-- The sort of a line further in is told by what is behind its indentation. -/
theorem lineKind_text {l : Line} (hdepth : l.depth ≠ 0) {c : Char} {cs : List Char}
    (hcontent : l.content.toList = c :: cs) (hblank : c ≠ ' ') :
    lineKind l.text.toList = plainKind (2 * l.depth) (c :: cs) := by
  have hne : l.content ≠ "" := by
    intro hempty
    simp [hempty] at hcontent
  have htext : l.text.toList = List.replicate (2 * l.depth) ' ' ++ c :: cs := by
    rw [Line.toList_text hne, hcontent]
  -- the line starts with a blank and so with no declaration
  have hword : declarationWord? (List.replicate (2 * l.depth) ' ' ++ c :: cs) = none := by
    obtain ⟨n, hn⟩ : ∃ n, 2 * l.depth = n + 1 := ⟨2 * l.depth - 1, by omega⟩
    rw [hn, List.replicate_succ, List.cons_append]
    rfl
  have hindent : ∀ d ∈ List.replicate (2 * l.depth) ' ', decide (d = ' ') = true :=
    fun d hd => decide_eq_true (List.eq_of_mem_replicate hd)
  rw [lineKind, htext, hword, List.takeWhile_append_of_pos hindent,
    List.dropWhile_append_of_pos hindent, List.takeWhile_cons_of_neg (by simpa using hblank),
    List.dropWhile_cons_of_neg (by simpa using hblank), List.append_nil, List.length_replicate]

/-- A text that starts like an entry. -/
def StartsEntry (s : String) : Prop :=
  ∃ c cs, s.toList = c :: cs ∧ c ≠ ' ' ∧ c ≠ '/' ∧ c ≠ '\x7d'

theorem StartsEntry.lineKind_text {l : Line} (h : StartsEntry l.content) (hdepth : l.depth ≠ 0) :
    lineKind l.text.toList = .entry (2 * l.depth) := by
  obtain ⟨c, cs, hcontent, hblank, hslash, hbrace⟩ := h
  rw [Relata.lineKind_text hdepth hcontent hblank, plainKind, if_neg hslash, if_neg hbrace]

/-- The sort of an entry of a declaration. -/
theorem StartsEntry.lineKind_deeper {s : String} (h : StartsEntry s) :
    lineKind (Line.flush s).deeper.text.toList = .entry 2 :=
  StartsEntry.lineKind_text (l := (Line.flush s).deeper) h (Nat.succ_ne_zero 0)

theorem StartsEntry.append {s : String} (h : StartsEntry s) (t : String) :
    StartsEntry (s ++ t) := by
  obtain ⟨c, cs, hs, hstart⟩ := h
  exact ⟨c, cs ++ t.toList, by rw [String.toList_append, hs, List.cons_append], hstart⟩

theorem startsEntry_ofList {c : Char} (h : c ≠ ' ' ∧ c ≠ '/' ∧ c ≠ '\x7d') (cs : List Char) :
    StartsEntry (String.ofList (c :: cs)) :=
  ⟨c, cs, String.toList_ofList, h⟩

theorem startsEntry_stringLiteral (s : String) : StartsEntry (stringLiteral s) :=
  startsEntry_ofList (by decide) _

theorem startsEntry_propertyKey {key : String} (h : StartsEntry key) :
    StartsEntry (propertyKey key) := by
  unfold propertyKey
  split
  · exact startsEntry_ofList (by decide) _
  · exact h

theorem IsIdentifier.startsEntry {s : String} (h : IsIdentifier s) : StartsEntry s := by
  cases hs : s.toList with
  | nil => exact absurd hs h.ne_nil
  | cons c cs =>
    have hchar : isIdentifierChar c = true := h.chars c (hs ▸ List.mem_cons_self)
    refine ⟨c, cs, hs, ?_⟩
    and_intros <;> rintro rfl <;> exact absurd hchar (by decide)

/-! ### Unbroken texts -/

theorem isUnbroken_ofList {cs : List Char} (h : ∀ c ∈ cs, c ∉ lineBreaks) :
    IsUnbroken (String.ofList cs) := by
  rwa [IsUnbroken, String.toList_ofList]

theorem IsUnbroken.append {s t : String} (hs : IsUnbroken s) (ht : IsUnbroken t) :
    IsUnbroken (s ++ t) := by
  intro c hc
  rw [String.toList_append, List.mem_append] at hc
  exact hc.elim (hs c) (ht c)

/-- A text in a comment is written without line breaks, as these do not print. -/
theorem isUnbroken_commentText (s : String) : IsUnbroken (Text.commentText s) := by
  have hbreaks : ∀ c ∈ lineBreaks, Text.isPrintable c = false := by decide +kernel
  intro c hc hbreak
  have hprintable : Text.isPrintable c = true := isPrintable_of_mem_commentText hc
  rw [hbreaks c hbreak] at hprintable
  exact Bool.false_ne_true hprintable

namespace Module

section Kinds

variable {α β : Type} {l : Line} {ls ls' : List Line}

@[simp] theorem kinds_nil : kinds [] = [] := rfl

@[simp] theorem kinds_cons : kinds (l :: ls) = lineKind l.text.toList :: kinds ls := rfl

@[simp] theorem kinds_append : kinds (ls ++ ls') = kinds ls ++ kinds ls' := List.map_append

theorem kinds_map {f : α → Line} {kind : LineKind} {as : List α}
    (h : ∀ a ∈ as, lineKind (f a).text.toList = kind) :
    kinds (as.map f) = List.replicate as.length kind := by
  rw [kinds, List.map_map]
  exact List.map_eq_replicate_iff.mpr h

theorem kinds_flatMap {f : α → List Line} {size : α → β} {g : β → List LineKind} {as : List α}
    (h : ∀ a ∈ as, kinds (f a) = g (size a)) : kinds (as.flatMap f) = (as.map size).flatMap g := by
  rw [kinds, List.map_flatMap, List.flatMap_map]
  exact List.flatMap_congr h

/-- The sorts of the lines of a block. -/
theorem kinds_block {opening closing word : String} {body : List Line}
    (ho : lineKind opening.toList = .declaration word)
    (hb : ∀ l ∈ body, l.depth = 0 ∧ StartsEntry l.content)
    (hc : lineKind closing.toList = .closing 0) :
    kinds (block opening body closing) = blockKinds word body.length := by
  have hbody : kinds (body.map Line.deeper) = List.replicate body.length (.entry 2) := by
    refine kinds_map fun l hl => ?_
    obtain ⟨hdepth, hstart⟩ := hb l hl
    have hdeeper : l.deeper.depth = 1 := congrArg (· + 1) hdepth
    have hne : l.deeper.depth ≠ 0 := by rw [hdeeper]; exact Nat.one_ne_zero
    rw [StartsEntry.lineKind_text (l := l.deeper) hstart hne, hdeeper]
  rw [block, kinds_append, kinds_cons, hbody, kinds_cons, kinds_nil, Line.text_flush,
    Line.text_flush, ho, hc, blockKinds]

end Kinds

/-! ### Sections -/

theorem lineKind_closing : lineKind "\x7d".toList = .closing 0 ∧
    lineKind "\x7d as const;".toList = .closing 0 :=
  ⟨(lineKind_ofList _).trans rfl, (lineKind_ofList _).trans rfl⟩

variable {table : SymbolTable}

theorem kinds_header (table : SymbolTable) :
    kinds (header table) = [.comment, .comment, .comment, .blank] := by
  have hfirst : lineKind "// Code generated by rsfga-typegen. DO NOT EDIT.".toList = .comment :=
    (lineKind_ofList _).trans rfl
  have hthird : lineKind "/* eslint-disable */".toList = .comment := (lineKind_ofList _).trans rfl
  have hmodel : ∀ rest, lineKind ("// Authorization model " ++ rest).toList = .comment :=
    fun _ => lineKind_ofList_append fun _ => rfl
  have hschema : ∀ rest, lineKind ("// Authorization model (schema " ++ rest).toList = .comment :=
    fun _ => lineKind_ofList_append fun _ => rfl
  cases h : table.modelId
  all_goals
    simp only [header, h, kinds_cons, kinds_nil, Line.text_flush, String.append_assoc, hfirst,
      hthird, hmodel, hschema]
    rfl

theorem kinds_objectTypes (h : table.IsNamed) :
    kinds (objectTypes table) = objectTypesKinds table.relationCounts := by
  have hconstants : kinds (table.types.map typeConstant) =
      List.replicate table.types.length (.declaration "const") := by
    refine kinds_map fun t _ => ?_
    simp only [typeConstant, Line.text_flush, String.append_assoc]
    exact lineKind_ofList_append fun _ => rfl
  have hentries : ∀ l ∈ table.types.map objectTypeEntry, l.depth = 0 ∧ StartsEntry l.content := by
    refine List.forall_mem_map.mpr fun t ht => ⟨rfl, ?_⟩
    simp only [objectTypeEntry, Line.content_flush, String.append_assoc]
    exact (startsEntry_propertyKey (h.identifier t ht).startsEntry).append _
  have htable : lineKind "export const ObjectTypes = \x7b".toList = .declaration "const" :=
    (lineKind_ofList _).trans rfl
  have hname : lineKind (if table.types.isEmpty then "export type ObjectTypeName = never;"
      else "export type ObjectTypeName = (typeof ObjectTypes)[keyof typeof ObjectTypes];").toList =
        .declaration "type" := by
    split <;> exact (lineKind_ofList _).trans rfl
  have hgap : kinds (if table.types.isEmpty then [] else [Line.blank]) =
      if table.relationCounts.isEmpty then [] else [LineKind.blank] := by
    cases htypes : table.types with
    | nil =>
      simp only [SymbolTable.relationCounts, htypes, List.map_nil, List.isEmpty_nil, if_true,
        kinds_nil]
    | cons t types =>
      rw [SymbolTable.relationCounts, htypes, List.map_cons, List.isEmpty_cons, List.isEmpty_cons,
        if_neg Bool.false_ne_true, if_neg Bool.false_ne_true]
      rfl
  simp only [objectTypes, kinds_append, kinds_cons, kinds_nil, hconstants, hgap,
    kinds_block htable hentries lineKind_closing.2, Line.text_flush, hname, objectTypesKinds,
    SymbolTable.relationCounts, List.length_map]
  rfl

theorem kinds_relationGroup (h : table.IsNamed) {t : TypeSymbol} (ht : t ∈ table.types) :
    kinds (relationGroup t) = relationGroupKinds t.relations.length := by
  have hentries : ∀ l ∈ t.relations.map relationEntry, l.depth = 0 ∧ StartsEntry l.content := by
    refine List.forall_mem_map.mpr fun r hr => ⟨rfl, ?_⟩
    simp only [relationEntry, Line.content_flush, String.append_assoc]
    exact (startsEntry_propertyKey (h.relationIdentifier t ht r hr).startsEntry).append _
  have hcategory : ∀ l ∈ Category.all.map (categoryEntry t),
      l.depth = 0 ∧ StartsEntry l.content := by
    refine List.forall_mem_map.mpr fun c _ => ⟨rfl, ?_⟩
    simp only [categoryEntry, Line.content_flush, String.append_assoc]
    cases c <;> exact (startsEntry_ofList (by decide) _).append _
  have hconst : ∀ rest, lineKind ("export const " ++ rest).toList = .declaration "const" :=
    fun _ => lineKind_ofList_append fun _ => rfl
  have htype : ∀ rest, lineKind ("export type " ++ rest).toList = .declaration "type" :=
    fun _ => lineKind_ofList_append fun _ => rfl
  have hcategories : kinds (categoryTable t) = blockKinds "const" 4 := by
    rw [categoryTable, String.append_assoc]
    exact kinds_block (hconst _) hcategory lineKind_closing.2
  rw [relationGroup, kinds_append, hcategories, relationTable, relationGroupKinds]
  by_cases hr : t.relations = []
  · simp only [hr, List.isEmpty_nil, if_true, kinds_cons, kinds_nil, Line.text_flush,
      String.append_assoc, hconst, htype, List.length_nil, List.cons_append, List.nil_append]
  · have hlength : t.relations.length ≠ 0 := by simpa using hr
    simp only [List.isEmpty_iff, hr, if_false, hlength, kinds_append, kinds_cons, kinds_nil,
      Line.text_flush, String.append_assoc, htype,
      kinds_block (hconst _) hentries lineKind_closing.2, List.length_map]
    simp

theorem kinds_relationGroups (h : table.IsNamed) :
    kinds (relationGroups table) = relationGroupsKinds table.relationCounts := by
  have hgroups : kinds (table.types.flatMap fun t => relationGroup t ++ [.blank]) =
      table.relationCounts.flatMap fun n => relationGroupKinds n ++ [.blank] := by
    refine kinds_flatMap fun t ht => ?_
    rw [kinds_append, kinds_relationGroup h ht]
    rfl
  have hmap : ∀ l ∈ table.types.map relationMapEntry, l.depth = 0 ∧ StartsEntry l.content := by
    refine List.forall_mem_map.mpr fun t _ => ⟨rfl, ?_⟩
    simp only [relationMapEntry, Line.content_flush, String.append_assoc]
    exact (startsEntry_stringLiteral _).append _
  have hobject : ∀ l ∈ table.types.map relationsByObjectEntry,
      l.depth = 0 ∧ StartsEntry l.content := by
    refine List.forall_mem_map.mpr fun t _ => ⟨rfl, ?_⟩
    simp only [relationsByObjectEntry, Line.content_flush, String.append_assoc]
    exact (startsEntry_propertyKey (startsEntry_stringLiteral _)).append _
  have hinterface : lineKind "export interface RelationMap \x7b".toList =
      .declaration "interface" := (lineKind_ofList _).trans rfl
  have hconst : lineKind "export const RelationsByObject = \x7b".toList = .declaration "const" :=
    (lineKind_ofList _).trans rfl
  rw [relationGroups, kinds_append, kinds_append, hgroups, kinds_cons,
    kinds_block hinterface hmap lineKind_closing.1, kinds_block hconst hobject lineKind_closing.2,
    relationGroupsKinds, SymbolTable.relationCounts]
  simp only [List.length_map]
  rfl

theorem kinds_unionMembers (types : List TypeSymbol) :
    kinds ((unionMembers types).map Line.deeper) = List.replicate types.length (.entry 2) := by
  have hentry : ∀ s, lineKind (Line.flush ("| " ++ s)).deeper.text.toList = .entry 2 :=
    fun s => ((startsEntry_ofList (by decide) _).append s).lineKind_deeper
  induction types with
  | nil => rfl
  | cons t types ih =>
    cases types with
    | nil =>
      simp only [unionMembers, List.map_cons, List.map_nil, kinds_cons, kinds_nil,
        String.append_assoc, hentry]
      rfl
    | cons u types =>
      rw [unionMembers, List.map_cons, kinds_cons, ih, String.append_assoc, hentry]
      rfl

theorem kinds_tupleKeyInterface (t : TypeSymbol) :
    kinds (tupleKeyInterface t) = blockKinds "interface" 5 := by
  have hopening : lineKind ("export interface " ++ t.stem ++ "TupleKey \x7b").toList =
      .declaration "interface" := by
    rw [String.append_assoc]
    exact lineKind_ofList_append fun _ => rfl
  refine kinds_block hopening ?_ lineKind_closing.1
  simp only [List.forall_mem_cons, Line.content_flush, String.append_assoc, List.not_mem_nil,
    false_implies, implies_true, and_true]
  refine ⟨⟨rfl, ?_⟩, ⟨rfl, ?_⟩, ⟨rfl, ?_⟩, ⟨rfl, ?_⟩, rfl, ?_⟩
  · exact (startsEntry_ofList (by decide) _).append _
  · exact (startsEntry_ofList (by decide) _).append _
  · exact (startsEntry_ofList (by decide) _).append _
  · exact startsEntry_ofList (by decide) _
  · exact startsEntry_ofList (by decide) _

theorem kinds_conditionNames (conditions : List String) :
    kinds (conditionNames conditions) = [.declaration "const", .declaration "type"] := by
  have hnames : lineKind ("export const ConditionNames = " ++ stringList conditions ++
      " as const;").toList = .declaration "const" := by
    rw [String.append_assoc]
    exact lineKind_ofList_append fun _ => rfl
  have hname : lineKind (if conditions.isEmpty then "export type ConditionName = string;"
      else "export type ConditionName = (typeof ConditionNames)[number];").toList =
        .declaration "type" := by
    split <;> exact (lineKind_ofList _).trans rfl
  rw [conditionNames, kinds_cons, kinds_cons, Line.text_flush, Line.text_flush, hnames, hname,
    kinds_nil]

theorem kinds_conditionInterface : kinds conditionInterface = blockKinds "interface" 2 := by
  refine kinds_block ((lineKind_ofList _).trans rfl) ?_ lineKind_closing.1
  simp only [List.forall_mem_cons, Line.content_flush, List.not_mem_nil, false_implies,
    implies_true, and_true]
  exact ⟨⟨rfl, startsEntry_ofList (by decide) _⟩, rfl, startsEntry_ofList (by decide) _⟩

theorem startsEntry_tupleKeyMapEntry (t : TypeSymbol) :
    (tupleKeyMapEntry t).depth = 0 ∧ StartsEntry (tupleKeyMapEntry t).content := by
  simp only [tupleKeyMapEntry, Line.content_flush, String.append_assoc]
  exact ⟨rfl, (startsEntry_stringLiteral _).append _⟩

theorem kinds_tupleKeyUnion (types : List TypeSymbol) :
    kinds (tupleKeyUnion types) =
      .declaration "type" :: List.replicate types.length (.entry 2) := by
  have hnever : lineKind "export type TupleKey = never;".toList = .declaration "type" :=
    (lineKind_ofList _).trans rfl
  have hfirst : lineKind "export type TupleKey =".toList = .declaration "type" :=
    (lineKind_ofList _).trans rfl
  rw [tupleKeyUnion]
  split
  · next hempty =>
    rw [kinds_cons, kinds_nil, Line.text_flush, hnever, List.isEmpty_iff.mp hempty]
    rfl
  · rw [kinds_cons, Line.text_flush, hfirst, kinds_unionMembers]

theorem kinds_tupleKeys (table : SymbolTable) :
    kinds (tupleKeys table) = tupleKeysKinds table.relationCounts := by
  have hinterfaces : kinds (table.types.flatMap fun t => tupleKeyInterface t ++ [.blank]) =
      table.relationCounts.flatMap fun _ => blockKinds "interface" 5 ++ [.blank] := by
    refine kinds_flatMap fun t _ => ?_
    rw [kinds_append, kinds_tupleKeyInterface]
    rfl
  have hmap : ∀ l ∈ table.types.map tupleKeyMapEntry, l.depth = 0 ∧ StartsEntry l.content :=
    List.forall_mem_map.mpr fun t _ => startsEntry_tupleKeyMapEntry t
  have hopening : lineKind "export interface TupleKeyMap \x7b".toList = .declaration "interface" :=
    (lineKind_ofList _).trans rfl
  simp only [tupleKeys, kinds_append, kinds_cons, kinds_conditionNames, kinds_conditionInterface,
    hinterfaces, kinds_block hopening hmap lineKind_closing.1, kinds_tupleKeyUnion, tupleKeysKinds,
    SymbolTable.relationCounts, List.length_map]
  rfl

theorem kinds_metadata (table : SymbolTable) :
    kinds (metadata table) = metadataKinds table.relationCounts := by
  have hcategories : kinds (((table.types.map relationCategoriesEntry).map Line.deeper).map
      Line.deeper) = List.replicate table.types.length (.entry 4) := by
    rw [List.map_map, List.map_map]
    refine kinds_map fun t _ => ?_
    refine StartsEntry.lineKind_text (l := (relationCategoriesEntry t).deeper.deeper) ?_
      (Nat.succ_ne_zero 1)
    simp only [Line.content_deeper, relationCategoriesEntry, Line.content_flush,
      String.append_assoc]
    exact (startsEntry_propertyKey (startsEntry_stringLiteral _)).append _
  have hclosing : lineKind (Line.flush "\x7d,").deeper.text.toList = .closing 2 := by
    have hcontent : (Line.flush "\x7d,").deeper.content.toList = ['\x7d', ','] := rfl
    rw [lineKind_text (Nat.succ_ne_zero 0) hcontent (by decide)]
    rfl
  have hopening : lineKind "export const MODEL_METADATA = \x7b".toList = .declaration "const" :=
    (lineKind_ofList _).trans rfl
  simp only [metadata, block, List.map_append, List.map_cons, List.map_nil, kinds_append,
    kinds_cons, kinds_nil, Line.text_flush, String.append_assoc, hopening, hcategories, hclosing,
    lineKind_closing.2, metadataKinds, SymbolTable.relationCounts, List.length_map]
  rw [((startsEntry_ofList (by decide) _).append _).lineKind_deeper,
    ((startsEntry_ofList (by decide) _).append _).lineKind_deeper,
    ((startsEntry_ofList (by decide) _).append _).lineKind_deeper,
    ((startsEntry_ofList (by decide) _).append _).lineKind_deeper,
    (startsEntry_ofList (by decide) _).lineKind_deeper,
    (startsEntry_ofList (by decide) _).lineKind_deeper,
    (startsEntry_ofList (by decide) _).lineKind_deeper]
  simp [List.replicate_succ]

/-! ### Modules -/

theorem lineKind_sectionTexts {title : String} (body : List Line) :
    (sectionTexts title body).map (lineKind ·.toList) = sectionKinds (kinds body) := by
  have htitle : lineKind ("// ---- " ++ title ++ " ----").toList = .heading := by
    rw [String.append_assoc]
    exact lineKind_ofList_append fun _ => rfl
  simp only [sectionTexts, List.map_cons, List.map_append, List.map_map, htitle]
  rfl

/-- **The lines of a module, sort by sort.** -/
theorem hasKinds_moduleText (h : table.IsPlain) (hn : table.IsNamed) (t : Instant) :
    HasKinds (moduleText table t) (skeleton table.relationCounts) := by
  have htime : lineKind (timestampLine t).text.toList = .declaration "const" := by
    rw [timestampLine, Line.text_flush, timestampPrefix, String.append_assoc]
    exact lineKind_ofList_append fun _ => rfl
  have htitle : lineKind "// ---- Metadata ----".toList = .heading := (lineKind_ofList _).trans rfl
  have hkinds : (Text.linesOf (moduleText table t)).map (lineKind ·.toList) =
      skeleton table.relationCounts := by
    rw [linesOf_moduleText h]
    simp only [List.map_append, List.map_cons, List.map_nil, lineKind_sectionTexts,
      kinds_objectTypes hn, kinds_relationGroups hn, kinds_tupleKeys, htitle, htime, List.map_map]
    have hheader := kinds_header table
    have hmetadata := kinds_metadata table
    rw [kinds] at hheader hmetadata
    rw [skeleton, ← hheader, ← hmetadata]
    rfl
  -- no line of a module holds a line end
  have hplain := isOneLine_of_mem_text (arePlain_moduleLines h t)
  have hlines := linesOf_render (arePlain_moduleLines h t)
  refine ⟨hkinds, ?_, ?_, return_notMem_unlines hplain⟩
  · rw [moduleText, hlines, render]
  · rw [← hkinds, moduleText, hlines, List.length_map]
    exact count_unlines hplain

/-- The comments of the header are on one line each. -/
theorem isUnbroken_header (table : SymbolTable) :
    ∀ line ∈ (header table).map Line.text, IsUnbroken line := by
  have hempty : IsUnbroken "" := isUnbroken_ofList (List.forall_mem_nil _)
  have hschema := isUnbroken_commentText table.schemaVersion
  cases h : table.modelId with
  | none =>
    simp only [header, h, List.map_cons, List.map_nil, Line.text_flush, Line.text_blank,
      List.forall_mem_cons, List.not_mem_nil, false_implies, implies_true, and_true]
    refine ⟨isUnbroken_ofList (by decide), ?_, isUnbroken_ofList (by decide), hempty⟩
    exact ((isUnbroken_ofList (by decide)).append hschema).append (isUnbroken_ofList (by decide))
  | some id =>
    simp only [header, h, List.map_cons, List.map_nil, Line.text_flush, Line.text_blank,
      List.forall_mem_cons, List.not_mem_nil, false_implies, implies_true, and_true]
    refine ⟨isUnbroken_ofList (by decide), ?_, isUnbroken_ofList (by decide), hempty⟩
    exact ((((isUnbroken_ofList (by decide)).append (isUnbroken_commentText id)).append
      (isUnbroken_ofList (by decide))).append hschema).append (isUnbroken_ofList (by decide))

/-- **The module of any table starts with three comments and an empty line**, whatever the id and
the schema version are. -/
theorem hasFlatHeader_moduleText (table : SymbolTable) (t : Instant) :
    HasFlatHeader (moduleText table t) := by
  obtain ⟨comments, hheader, hlength⟩ :
      ∃ comments, header table = comments ++ [.blank] ∧ comments.length = 3 :=
    ⟨[_, _, _], rfl, rfl⟩
  have hkinds : kinds comments = List.replicate 3 .comment := by
    have hall : kinds comments ++ kinds [.blank] = List.replicate 3 .comment ++ kinds [.blank] := by
      rw [← kinds_append, ← hheader]
      exact kinds_header table
    exact List.append_cancel_right hall
  have hunbroken := isUnbroken_header table
  rw [hheader, List.map_append, List.forall_mem_append] at hunbroken
  have htitle : "// ---- " ++ "Object types" ++ " ----" = "// ---- Object types ----" := by decide
  obtain ⟨rest, hrest⟩ : ∃ rest, moduleLines table t =
      comments ++ [.blank, .flush "// ---- Object types ----"] ++ rest := by
    rw [moduleLines, hheader, titled, sectionTitle, htitle]
    simp only [List.append_assoc, List.cons_append, List.nil_append]
    exact ⟨_, rfl⟩
  refine ⟨comments.map Line.text, render rest, ?_, by rw [List.length_map, hlength],
    List.forall_mem_map.mpr fun l hl => ?_⟩
  · rw [moduleText, render, hrest, List.map_append, List.map_append, unlines_append, List.map_cons,
      List.map_singleton, Line.text_blank, Line.text_flush, render]
  · have hmem : lineKind l.text.toList ∈ kinds comments := List.mem_map_of_mem hl
    rw [hkinds] at hmem
    exact ⟨List.eq_of_mem_replicate hmem, hunbroken.1 _ (List.mem_map_of_mem hl)⟩

end Module

/-- **Models of one shape have modules of one structure**: their texts have as many lines, of the
same sort at each place, and every line is ended by a line feed. The header of the module of any
table is flat, also of one that belongs to no valid model. -/
theorem hasKinds_and_hasFlatHeader :
    (∀ {m₁ m₂ : Model} {t₁ t₂ : Instant} {g₁ g₂ : GeneratedModule}, m₁.generateAt t₁ = .ok g₁ →
      m₂.generateAt t₂ = .ok g₂ → m₁.relationCounts = m₂.relationCounts →
        HasKinds g₁.source (Module.skeleton m₁.relationCounts) ∧
          HasKinds g₂.source (Module.skeleton m₁.relationCounts)) ∧
      ∀ (table : SymbolTable) (t : Instant), HasFlatHeader (Module.moduleText table t) := by
  have hkinds : ∀ {m : Model} {t : Instant} {g : GeneratedModule}, m.generateAt t = .ok g →
      HasKinds g.source (Module.skeleton m.relationCounts) := by
    intro m t g h
    obtain ⟨hvalid, -, rfl⟩ := Model.generateAt_eq_ok.mp h
    rw [← m.relationCounts_table]
    exact Module.hasKinds_moduleText hvalid.isPlain_table m.isNamed_table t
  refine ⟨fun h₁ h₂ hcounts => ⟨hkinds h₁, ?_⟩, Module.hasFlatHeader_moduleText⟩
  rw [hcounts]
  exact hkinds h₂

/-- A model of two types, the second with one relation. -/
def sharedFiles : Model where
  id := none
  schemaVersion := "1.1"
  types := [⟨"user", []⟩, ⟨"file", [⟨"owner", .direct [⟨"user", .object, none⟩]⟩]⟩]
  conditions := []

/-- A model of the same shape, whose texts look like lines of code. -/
def quotedFiles : Model where
  id := some "1\u2028export const A = 1;"
  schemaVersion := "*/\u2029\x7d"
  types := [⟨"__proto__", []⟩,
    ⟨"\x60\\$\x7b", [⟨"\"//\"", .direct [⟨"__proto__", .object, none⟩]⟩]⟩]
  conditions := [⟨"\r\n\x7d", "true", []⟩]

theorem hasKinds_quotedFiles : ∃ g₁ g₂ : GeneratedModule,
    sharedFiles.generateAt default = .ok g₁ ∧ quotedFiles.generateAt default = .ok g₂ ∧
      HasKinds g₁.source (Module.skeleton [0, 1]) ∧ HasKinds g₂.source (Module.skeleton [0, 1]) ∧
      HasFlatHeader (Module.moduleText quotedFiles.table default) := by
  have h₁ := Model.generateAt_of_problems_eq_nil (m := sharedFiles) (by decide) (by decide) default
  have h₂ := Model.generateAt_of_problems_eq_nil (m := quotedFiles) (by decide) (by decide) default
  obtain ⟨hkinds, hheader⟩ := hasKinds_and_hasFlatHeader
  obtain ⟨hshared, hquoted⟩ := hkinds h₁ h₂ rfl
  exact ⟨_, _, h₁, h₂, hshared, hquoted, hheader quotedFiles.table default⟩

end Relata
