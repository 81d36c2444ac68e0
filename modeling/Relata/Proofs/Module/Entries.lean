import Relata.Proofs.Module.Nevers
import Relata.Proofs.Module.Tables

/-!
# Entries of a module

Every declaration of a module that lists the types of its model, or the relations of a type, lists
each of them once and in the order of the model, on a line of its own. The lines are read off the
text of the module: the body of a declaration is what stands behind the line that declares its name,
as far as the lines are indented, and a nested body is found in it in the same way.

## Main definitions

* `AreEntries`, `HasTable` — lines that are given entries, and a declaration with such a body.
* `AreMembers` — lines that are given members of a union, of which only the last closes it.
* `Model.IsListedIn` — a text lists the definitions of a model.

## Main results

* `hasTable_block` — the entries of a block of lines.
* `areMembers_unionMembers` — the members of the union of tuple keys.
* `isListedIn_of_generateAt` — **a module has one entry for each definition, in model order.**
-/

namespace Relata

open Source

/-! ### Lists of lines -/

/-- The lines are the given entries, in their order, and no key is there twice. -/
structure AreEntries (ls : List String) (mark : Char) (entries : List KeyedEntry) : Prop where
  lines : ls.mapM (entryOf? mark ·.toList) = some entries
  keys : (entries.map (·.key)).Nodup

/-- A text declares a name, and the body of the declaration are the given entries. -/
structure HasTable (source name : String) (mark : Char) (entries : List KeyedEntry) : Prop where
  declared : name ∈ declarations source
  body : AreEntries (bodyOf name (Text.linesOf source)) mark entries

/-- The lines are members of a union with the given names, and only the last closes it. -/
structure AreMembers (ls names : List String) : Prop where
  lines : ∃ members, ls.mapM (member? ·.toList) = some members ∧ members.map (·.name) = names ∧
    ∀ i (h : i < members.length), members[i].isLast = true ↔ i + 1 = members.length
  keys : names.Nodup

/-- The lines behind the first one with the given content, as far as they are further in, among the
lines of a declaration. -/
def nestedBody? (opening : String) (ls : List String) : Option (List String) :=
  match ls.dropWhile (· ≠ "  " ++ opening) with
  | [] => none
  | _ :: rest => some (rest.takeWhile fun l => [' ', ' ', ' ', ' '].isPrefixOf l.toList)

/-- A text lists the definitions of a model: every declaration that lists types or relations has one
entry for each of them, in the order of the model. In object literals, and only there, the key that
would set the prototype is computed. -/
structure Model.IsListedIn (m : Model) (source : String) : Prop where
  objectTypes : HasTable source "ObjectTypes" ',' (m.types.map fun t =>
    ⟨KeyForm.word.own (sanitize t.name), sanitize t.name, t.stem ++ "Type"⟩)
  relationMap : HasTable source "RelationMap" ';' (m.types.map fun t =>
    ⟨.quoted, t.name, t.stem ++ "Relation"⟩)
  relationsByObject : HasTable source "RelationsByObject" ',' (m.types.map fun t =>
    ⟨KeyForm.quoted.own t.name, t.name, stringList (t.relations.map (·.name))⟩)
  tupleKeyMap : HasTable source "TupleKeyMap" ';' (m.types.map fun t =>
    ⟨.quoted, t.name, t.stem ++ "TupleKey"⟩)
  /-- The metadata have a table of the categories of each type. -/
  relationCategories : ∃ ls, nestedBody? "relationCategories: \x7b"
      (bodyOf "MODEL_METADATA" (Text.linesOf source)) = some ls ∧
    AreEntries ls ',' (m.types.map fun t =>
      ⟨KeyForm.quoted.own t.name, t.name, t.stem ++ "RelationCategories"⟩)
  union : AreMembers (bodyOf "TupleKey" (Text.linesOf source)) (m.types.map (·.stem ++ "TupleKey"))
  relations : ∀ t ∈ m.types, HasTable source (t.stem ++ "Relations") ',' (t.relations.map fun r =>
    ⟨KeyForm.word.own (sanitize r.name), sanitize r.name, stringLiteral r.name⟩)
  /-- The arrays of the categories of a type have each of its relations once. -/
  categories : ∀ t ∈ m.types, ∃ arrays,
    tableOf (t.stem ++ "RelationCategories") source = some arrays ∧
      arrays.map Prod.fst = Category.all.map (·.name) ∧
      (arrays.flatMap Prod.snd).Perm (t.relations.map (·.name)) ∧
      ∀ a ∈ arrays, a.2.Sublist (t.relations.map (·.name))
  /-- Without types there are no names of types and no keys, and without relations of a type no
  names of its relations. -/
  never : neverTypes source = if m.types.isEmpty then ["ObjectTypeName", "TupleKey"]
    else (m.types.filter (·.relations.isEmpty)).map (·.stem ++ "Relation")

/-! ### Bodies of declarations -/

section Bodies

variable {α : Type} {as : List α} {entry : α → Line} {f : α → KeyedEntry} {mark : Char}

/-- The entries of a declaration, where no name is declared twice. -/
theorem hasTable_lines {name source opening next : String}
    (hlines : opening :: ((as.map entry).map (·.deeper.text) ++ [next]) <:+: Text.linesOf source)
    (hnodup : (declarations source).Nodup) (ho : declaredName? opening.toList = some name)
    (hnext : next.toList.head? ≠ some ' ')
    (h : ∀ a ∈ as, entryOf? mark (entry a).deeper.text.toList = some (f a))
    (hkeys : (as.map fun a => (f a).key).Nodup) : HasTable source name mark (as.map f) where
  declared := List.mem_filterMap.mpr ⟨opening, hlines.subset List.mem_cons_self, ho⟩
  body := by
    refine ⟨?_, by rwa [List.map_map]⟩
    rw [bodyOf_lines hlines hnodup ho (content_ne_of_read rfl h) hnext]
    exact mapM_text_deeper h

/-- The entries of a block of lines. -/
theorem hasTable_block {name source opening closing : String}
    (hblock : (block opening (as.map entry) closing).map Line.text <:+: Text.linesOf source)
    (hnodup : (declarations source).Nodup) (ho : declaredName? opening.toList = some name)
    (hc : closing.toList.head? ≠ some ' ')
    (h : ∀ a ∈ as, entryOf? mark (entry a).deeper.text.toList = some (f a))
    (hkeys : (as.map fun a => (f a).key).Nodup) : HasTable source name mark (as.map f) :=
  hasTable_lines (text_block _ _ _ ▸ hblock) hnodup ho hc h hkeys

/-- The nested body of a declaration with a block in its body. -/
theorem nestedBody?_block {opening closing : String} {before after : List Line}
    (hbefore : ∀ l ∈ before, l.deeper.text ≠ "  " ++ opening) (ho : opening ≠ "")
    (hentry : ∀ a ∈ as, (entry a).content ≠ "")
    (hc : ¬ [' ', ' ', ' ', ' '] <+: (Line.flush closing).deeper.text.toList) :
    nestedBody? opening
      ((before ++ block opening (as.map entry) closing ++ after).map (·.deeper.text)) =
        some ((as.map fun a => (entry a).deeper).map (·.deeper.text)) := by
  have hlines : (before ++ block opening (as.map entry) closing ++ after).map (·.deeper.text) =
      before.map (·.deeper.text) ++ ("  " ++ opening) ::
        ((as.map fun a => (entry a).deeper).map (·.deeper.text) ++
          (Line.flush closing).deeper.text :: after.map (·.deeper.text)) := by
    simp [block, Line.text_deeper (l := .flush opening) ho]
  have hfirst : ∀ l ∈ before.map (·.deeper.text), decide (l ≠ "  " ++ opening) = true :=
    List.forall_mem_map.mpr fun l hl => decide_eq_true (hbefore l hl)
  have hindented : ∀ l ∈ (as.map fun a => (entry a).deeper).map (·.deeper.text),
      [' ', ' ', ' ', ' '].isPrefixOf l.toList = true := by
    simp only [List.forall_mem_map]
    intro a ha
    have hcontent : (entry a).deeper.content ≠ "" := hentry a ha
    rw [Line.text_deeper hcontent, Line.text_deeper (hentry a ha), List.isPrefixOf_iff_prefix,
      String.toList_append, String.toList_append]
    exact List.prefix_append [' ', ' ', ' ', ' '] (entry a).text.toList
  -- the lines up to the opening are dropped, and those indented further are taken
  rw [hlines, nestedBody?, List.dropWhile_append_of_pos hfirst,
    List.dropWhile_cons_of_neg (by simp)]
  simp only [Option.some.injEq]
  rw [List.takeWhile_append_of_pos hindented, List.takeWhile_cons_of_neg, List.append_nil]
  rwa [List.isPrefixOf_iff_prefix]

end Bodies

namespace Module

variable {table : SymbolTable}

/-! ### Entries -/

section Entries

variable {t : TypeSymbol}

theorem entryOf?_objectTypeEntry (h : IsIdentifier t.identifier) :
    entryOf? ',' (objectTypeEntry t).deeper.text.toList =
      some ⟨KeyForm.word.own t.identifier, t.identifier, t.stem ++ "Type"⟩ :=
  (isKey_identifier h).entryOf?_text (by simp [objectTypeEntry])

theorem entryOf?_relationMapEntry (t : TypeSymbol) :
    entryOf? ';' (relationMapEntry t).deeper.text.toList =
      some ⟨.quoted, t.name, t.stem ++ "Relation"⟩ :=
  (isKey_stringLiteral t.name).entryOf?_text (by simp [relationMapEntry])

theorem entryOf?_relationsByObjectEntry (t : TypeSymbol) :
    entryOf? ',' (relationsByObjectEntry t).deeper.text.toList =
      some ⟨KeyForm.quoted.own t.name, t.name, stringList t.relationNames⟩ :=
  (isKey_propertyKey t.name).entryOf?_text (by simp [relationsByObjectEntry])

theorem entryOf?_tupleKeyMapEntry (t : TypeSymbol) :
    entryOf? ';' (tupleKeyMapEntry t).deeper.text.toList =
      some ⟨.quoted, t.name, t.stem ++ "TupleKey"⟩ :=
  (isKey_stringLiteral t.name).entryOf?_text (by simp [tupleKeyMapEntry])

theorem entryOf?_relationCategoriesEntry (t : TypeSymbol) :
    entryOf? ',' (relationCategoriesEntry t).deeper.deeper.text.toList =
      some ⟨KeyForm.quoted.own t.name, t.name, t.stem ++ "RelationCategories"⟩ :=
  (isKey_propertyKey t.name).entryOf?_text (by simp [relationCategoriesEntry])

theorem entryOf?_relationEntry {r : RelationSymbol} (h : IsIdentifier r.identifier) :
    entryOf? ',' (relationEntry r).deeper.text.toList =
      some ⟨KeyForm.word.own r.identifier, r.identifier, stringLiteral r.name⟩ :=
  (isKey_identifier h).entryOf?_text (by simp [relationEntry])

end Entries

/-- The members of the union of tuple keys. -/
theorem areMembers_unionMembers {types : List TypeSymbol} (h : ∀ t ∈ types, IsStem t.stem) :
    ∃ members, ((unionMembers types).map (·.deeper.text)).mapM (member? ·.toList) = some members ∧
      members.map (·.name) = types.map (·.stem ++ "TupleKey") ∧
      ∀ i (h : i < members.length), members[i].isLast = true ↔ i + 1 = members.length := by
  have hmember : ∀ t ∈ types, ∀ (l : Line) (isLast : Bool), l.content.toList =
      ['|', ' '] ++ ((t.stem ++ "TupleKey").toList ++ if isLast then [';'] else []) →
        member? l.text.toList = some ⟨t.stem ++ "TupleKey", isLast⟩ := by
    intro t ht l isLast hcontent
    have hname : IsIdentifier (t.stem ++ "TupleKey") := (h t ht).isIdentifier_append (by decide)
    exact member?_text hname.ne_nil hname.chars hcontent
  induction types with
  | nil => exact ⟨[], rfl, rfl, by simp⟩
  | cons t types ih =>
    rw [List.forall_mem_cons] at h hmember
    obtain ⟨members, hmembers, hnames, hlast⟩ := ih h.2 hmember.2
    cases types with
    | nil =>
      refine ⟨[⟨t.stem ++ "TupleKey", true⟩], ?_, rfl, by simp⟩
      rw [unionMembers, List.map_singleton, List.mapM_cons, hmember.1 _ true (by simp)]
      rfl
    | cons u types =>
      refine ⟨⟨t.stem ++ "TupleKey", false⟩ :: members, ?_, ?_, ?_⟩
      · rw [unionMembers, List.map_cons, List.mapM_cons, hmember.1 _ false (by simp), hmembers]
        rfl
      · rw [List.map_cons, hnames, List.map_cons (a := t)]
      · -- there is a member behind the first one
        have hlength : members.length = types.length + 1 := by
          simpa using congrArg List.length hnames
        intro i hi
        cases i with
        | zero => simp [hlength]
        | succ i => simpa using hlast i (by simpa using hi)

theorem content_unionMembers_ne (types : List TypeSymbol) :
    ∀ l ∈ unionMembers types, l.content ≠ "" := by
  induction types with
  | nil => exact List.forall_mem_nil _
  | cons t types ih =>
    cases types with
    | nil => simp [unionMembers]
    | cons u types =>
      rw [unionMembers, List.forall_mem_cons]
      exact ⟨by simp, ih⟩

/-- The declaration of the union of tuple keys, with members or without. -/
theorem text_tupleKeyUnion (types : List TypeSymbol) :
    ∃ opening, declaredName? opening.toList = some "TupleKey" ∧
      (tupleKeyUnion types).map Line.text =
        opening :: (unionMembers types).map (·.deeper.text) := by
  rw [tupleKeyUnion]
  split
  · next hempty =>
    refine ⟨"export type TupleKey = never;", (declaredName?_ofList _).trans rfl, ?_⟩
    rw [List.isEmpty_iff.mp hempty]
    simp [unionMembers]
  · exact ⟨"export type TupleKey =", (declaredName?_ofList _).trans rfl, by simp⟩

/-! ### Places of the declarations -/

theorem infix_objectTypesBlock (table : SymbolTable) :
    block "export const ObjectTypes = \x7b" (table.types.map objectTypeEntry) "\x7d as const;" <:+:
      objectTypes table :=
  ⟨_, _, rfl⟩

theorem infix_relationMap (table : SymbolTable) :
    block "export interface RelationMap \x7b" (table.types.map relationMapEntry) "\x7d" <:+:
      relationGroups table :=
  ⟨_, _, rfl⟩

theorem infix_tupleKeyMap (table : SymbolTable) :
    block "export interface TupleKeyMap \x7b" (table.types.map tupleKeyMapEntry) "\x7d" <:+:
      tupleKeys table :=
  ⟨_, _, rfl⟩

/-- The union of tuple keys stands at the end of its section. -/
theorem infix_tupleKeyUnion (h : table.IsPlain) (t : Instant) :
    (tupleKeyUnion table.types).map Line.text ++ [""] <:+:
      Text.linesOf (moduleText table t) := by
  refine List.IsInfix.trans ?_ (infix_tupleKeys h t)
  rw [tupleKeys, List.map_append, List.append_assoc]
  exact ((List.suffix_cons "" _).trans (List.suffix_append _ _)).isInfix

theorem infix_relationTable {t : TypeSymbol} (ht : t ∈ table.types) :
    relationTable t <:+: relationGroups table :=
  (List.prefix_append _ _).isInfix.trans (infix_relationGroup ht)

theorem infix_metadata (h : table.IsPlain) (t : Instant) :
    (metadata table).map Line.text <:+: Text.linesOf (moduleText table t) := by
  rw [linesOf_moduleText h]
  exact (List.suffix_append _ _).isInfix

/-- A text that starts otherwise is another text. -/
theorem ofList_append_ne {cs ds : List Char} {rest : String} (h : ¬ cs <+: ds) :
    String.ofList cs ++ rest ≠ String.ofList ds := by
  intro heq
  have hchars := congrArg String.toList heq
  rw [String.toList_append, String.toList_ofList, String.toList_ofList] at hchars
  exact h ⟨rest.toList, hchars⟩

theorem content_relationCategoriesEntry_ne (t : TypeSymbol) :
    (relationCategoriesEntry t).content ≠ "" := by
  rw [relationCategoriesEntry]
  simp

/-- The lines of the table of categories in the metadata. -/
theorem nestedBody?_metadata {t : Instant} (h : table.IsPlain)
    (hnodup : (declarations (moduleText table t)).Nodup) :
    nestedBody? "relationCategories: \x7b"
      (bodyOf "MODEL_METADATA" (Text.linesOf (moduleText table t))) =
        some ((table.types.map fun s => (relationCategoriesEntry s).deeper).map
          (·.deeper.text)) := by
  have hinfix := infix_metadata h t
  have hopening : declaredName? "export const MODEL_METADATA = \x7b".toList =
      some "MODEL_METADATA" := (declaredName?_ofList _).trans rfl
  have hentry : ∀ s ∈ table.types, (relationCategoriesEntry s).content ≠ "" :=
    fun s _ => content_relationCategoriesEntry_ne s
  -- a line in front of the table starts otherwise
  have hother : ∀ s, s ≠ "" → s ≠ "relationCategories: \x7b" →
      (Line.flush s).deeper.text ≠ "  " ++ "relationCategories: \x7b" := by
    intro s hs hne heq
    rw [Line.text_deeper hs, Line.text_flush] at heq
    exact hne ((String.append_right_inj _).mp heq)
  rw [metadata] at hinfix
  rw [bodyOf_block hinfix hnodup hopening ?_ (by decide)]
  · refine nestedBody?_block ?_ (by decide) hentry (by decide)
    simp only [List.forall_mem_cons, String.append_assoc, List.not_mem_nil, false_implies,
      implies_true, and_true]
    and_intros
    on_goal 5 => exact hother _ (by decide) (by decide)
    all_goals exact hother _ (ofList_append_ne (by decide)) (ofList_append_ne (by decide))
  · simp only [List.forall_mem_append, List.forall_mem_cons, forall_mem_block (P := (· ≠ "")),
      Line.content_flush, String.append_assoc, List.forall_mem_map, List.not_mem_nil,
      false_implies, implies_true, and_true]
    refine ⟨⟨⟨?_, ?_, ?_, ?_, by decide⟩, by decide, hentry, by decide⟩, by decide⟩
    all_goals exact ofList_append_ne (by decide)

end Module

namespace Model

variable {m : Model}

theorem IsValid.nodup_typeNames (h : m.IsValid) : (m.table.types.map (·.name)).Nodup := by
  rw [table, List.map_map]
  exact h.distinct.types

section Tables

variable (h : m.IsValid) (hapart : m.NamesAreApart) (t : Instant)

include h hapart

theorem IsValid.hasTable_objectTypes : HasTable (Module.moduleText m.table t) "ObjectTypes" ','
    (m.table.types.map fun s =>
      ⟨KeyForm.word.own s.identifier, s.identifier, s.stem ++ "Type"⟩) := by
  have hinfix := Module.infix_text (Module.infix_objectTypesBlock m.table)
    (Module.infix_objectTypes h.isPlain_table t)
  have hopening : declaredName? "export const ObjectTypes = \x7b".toList = some "ObjectTypes" :=
    (declaredName?_ofList _).trans rfl
  have hkeys : (m.table.types.map (·.identifier)).Nodup := by
    rw [table, List.map_map]
    exact hapart.nodup_identifiers h.distinct
  exact hasTable_block hinfix (h.nodup_declarations hapart t) hopening (by decide)
    (fun s hs => Module.entryOf?_objectTypeEntry (m.isNamed_table.identifier s hs)) hkeys

theorem IsValid.hasTable_relationMap : HasTable (Module.moduleText m.table t) "RelationMap" ';'
    (m.table.types.map fun s => ⟨.quoted, s.name, s.stem ++ "Relation"⟩) := by
  have hinfix := Module.infix_text (Module.infix_relationMap m.table)
    (Module.infix_relationGroups h.isPlain_table t)
  have hopening : declaredName? "export interface RelationMap \x7b".toList = some "RelationMap" :=
    (declaredName?_ofList _).trans rfl
  exact hasTable_block hinfix (h.nodup_declarations hapart t) hopening (by decide)
    (fun s _ => Module.entryOf?_relationMapEntry s) h.nodup_typeNames

theorem IsValid.hasTable_relationsByObject :
    HasTable (Module.moduleText m.table t) "RelationsByObject" ',' (m.table.types.map fun s =>
      ⟨KeyForm.quoted.own s.name, s.name, stringList s.relationNames⟩) := by
  have hinfix := Module.infix_text (Module.infix_relationsByObject m.table)
    (Module.infix_relationGroups h.isPlain_table t)
  have hopening : declaredName? "export const RelationsByObject = \x7b".toList =
      some "RelationsByObject" := (declaredName?_ofList _).trans rfl
  exact hasTable_block hinfix (h.nodup_declarations hapart t) hopening (by decide)
    (fun s _ => Module.entryOf?_relationsByObjectEntry s) h.nodup_typeNames

theorem IsValid.hasTable_tupleKeyMap : HasTable (Module.moduleText m.table t) "TupleKeyMap" ';'
    (m.table.types.map fun s => ⟨.quoted, s.name, s.stem ++ "TupleKey"⟩) := by
  have hinfix := Module.infix_text (Module.infix_tupleKeyMap m.table)
    (Module.infix_tupleKeys h.isPlain_table t)
  have hopening : declaredName? "export interface TupleKeyMap \x7b".toList = some "TupleKeyMap" :=
    (declaredName?_ofList _).trans rfl
  exact hasTable_block hinfix (h.nodup_declarations hapart t) hopening (by decide)
    (fun s _ => Module.entryOf?_tupleKeyMapEntry s) h.nodup_typeNames

/-- The metadata have a table of the categories of each type. -/
theorem IsValid.areEntries_relationCategories : ∃ ls, nestedBody? "relationCategories: \x7b"
    (bodyOf "MODEL_METADATA" (Text.linesOf (Module.moduleText m.table t))) = some ls ∧
      AreEntries ls ',' (m.table.types.map fun s =>
        ⟨KeyForm.quoted.own s.name, s.name, s.stem ++ "RelationCategories"⟩) := by
  refine ⟨_, Module.nestedBody?_metadata h.isPlain_table (h.nodup_declarations hapart t), ?_, ?_⟩
  · exact mapM_text_deeper fun s _ => Module.entryOf?_relationCategoriesEntry s
  · rw [List.map_map]
    exact h.nodup_typeNames

/-- The members of the union of tuple keys. -/
theorem IsValid.areMembers_tupleKey :
    AreMembers (bodyOf "TupleKey" (Text.linesOf (Module.moduleText m.table t)))
      (m.table.types.map (·.stem ++ "TupleKey")) where
  lines := by
    obtain ⟨members, hmembers, hnames, hlast⟩ :=
      Module.areMembers_unionMembers m.isNamed_table.stem
    refine ⟨members, ?_, hnames, hlast⟩
    obtain ⟨opening, hopening, htext⟩ := Module.text_tupleKeyUnion m.table.types
    have hinfix := Module.infix_tupleKeyUnion h.isPlain_table t
    rw [htext] at hinfix
    rwa [bodyOf_lines hinfix (h.nodup_declarations hapart t) hopening
      (Module.content_unionMembers_ne _) (by decide)]
  keys := by
    refine nodup_map_of_name (hapart.nodup_stems h.distinct) fun s _ s' _ heq => ?_
    exact (String.append_left_inj "TupleKey").mp heq

/-- The table of the relations of a type. -/
theorem IsValid.hasTable_relations {s : TypeSymbol} (hs : s ∈ m.table.types)
    (hkeys : (s.relations.map (·.identifier)).Nodup) :
    HasTable (Module.moduleText m.table t) (s.stem ++ "Relations") ',' (s.relations.map fun r =>
      ⟨KeyForm.word.own r.identifier, r.identifier, stringLiteral r.name⟩) := by
  have hinfix := Module.infix_text (Module.infix_relationTable hs)
    (Module.infix_relationGroups h.isPlain_table t)
  have hstem : IsStem s.stem := m.isNamed_table.stem s hs
  have hread : ∀ r ∈ s.relations, entryOf? ',' (Module.relationEntry r).deeper.text.toList =
      some ⟨KeyForm.word.own r.identifier, r.identifier, stringLiteral r.name⟩ := fun r hr =>
    Module.entryOf?_relationEntry (m.isNamed_table.relationIdentifier s hs r hr)
  rw [Module.relationTable] at hinfix
  split at hinfix
  · next hempty =>
    have hopening : declaredName?
        ("export const " ++ s.stem ++ "Relations = \x7b\x7d as const;").toList =
          some (s.stem ++ "Relations") :=
      declaredName?_stem_end hstem (fun _ => rfl) (fun _ => rfl)
    have hnext : (Line.flush ("export type " ++ s.stem ++ "Relation = never;")).text.toList.head? ≠
        some ' ' := by
      simp
    rw [List.isEmpty_iff.mp hempty] at hread hkeys ⊢
    exact hasTable_lines hinfix (h.nodup_declarations hapart t) hopening hnext hread hkeys
  · have hopening : declaredName? ("export const " ++ s.stem ++ "Relations = \x7b").toList =
        some (s.stem ++ "Relations") :=
      declaredName?_stem_end hstem (fun _ => rfl) (fun _ => rfl)
    rw [List.map_append] at hinfix
    exact hasTable_block ((List.prefix_append _ _).isInfix.trans hinfix)
      (h.nodup_declarations hapart t) hopening (by decide) hread hkeys

end Tables

end Model

/-! ### Categories -/

/-- The groups of a list by key have the elements of the list. -/
theorem flatMap_filter_perm {α κ : Type} [DecidableEq κ] (key : α → κ) {keys : List κ}
    (hnodup : keys.Nodup) {as : List α} (h : ∀ a ∈ as, key a ∈ keys) :
    (keys.flatMap fun k => as.filter (key · = k)).Perm as := by
  induction as with
  | nil => simp
  | cons a as ih =>
    rw [List.forall_mem_cons] at h
    have hrest := ih h.2
    -- the element stands in front of the group of its key and changes no other group
    obtain ⟨before, after, rfl⟩ := List.append_of_mem h.1
    have hother : ∀ k ∈ before ++ after,
        (a :: as).filter (key · = k) = as.filter (key · = k) := by
      intro k hk
      have hne : key a ≠ k := by
        rintro rfl
        exact (List.nodup_middle.mp hnodup).notMem hk
      simp [hne]
    have hbefore : before.flatMap (fun k => (a :: as).filter (key · = k)) =
        before.flatMap fun k => as.filter (key · = k) :=
      List.flatMap_congr fun k hk => hother k (List.mem_append_left _ hk)
    have hafter : after.flatMap (fun k => (a :: as).filter (key · = k)) =
        after.flatMap fun k => as.filter (key · = k) :=
      List.flatMap_congr fun k hk => hother k (List.mem_append_right _ hk)
    have hgroup : (a :: as).filter (key · = key a) = a :: as.filter (key · = key a) := by simp
    rw [List.flatMap_append, List.flatMap_cons] at hrest
    rw [List.flatMap_append, List.flatMap_cons, hbefore, hafter, hgroup, List.cons_append]
    exact List.perm_middle.trans (hrest.cons a)

/-- The categories have every relation of a type once. -/
theorem TypeSymbol.perm_namesIn (s : TypeSymbol) :
    (Category.all.flatMap s.namesIn).Perm s.relationNames := by
  have hall : ∀ c : Category, c ∈ Category.all := by
    intro c
    cases c <;> decide
  have hcovered : ∀ r ∈ s.relations, r.category ∈ Category.all := fun r _ => hall r.category
  have hnames := (flatMap_filter_perm RelationSymbol.category (by decide) hcovered).map (·.name)
  rw [List.map_flatMap] at hnames
  exact hnames

/-- Each of them has its relations in the order of the model. -/
theorem TypeSymbol.sublist_namesIn (s : TypeSymbol) (c : Category) :
    (s.namesIn c).Sublist s.relationNames :=
  List.filter_sublist.map _

/-! ### Modules -/

/-- **A module has one entry for each definition, in model order.** -/
theorem isListedIn_of_generateAt {m : Model} {t : Instant} {g : GeneratedModule}
    (h : m.generateAt t = .ok g) : m.IsListedIn g.source := by
  obtain ⟨hvalid, hapart, rfl⟩ := Model.generateAt_eq_ok.mp h
  have htypes : ∀ {β : Type} (f : TypeSymbol → β),
      m.table.types.map f = m.types.map fun d => f d.symbol := fun f => List.map_map
  have hsymbol : ∀ d ∈ m.types, d.symbol ∈ m.table.types := fun d hd => List.mem_map_of_mem hd
  constructor
  case objectTypes =>
    have htable := hvalid.hasTable_objectTypes hapart t
    rw [htypes] at htable
    exact htable
  case relationMap =>
    have htable := hvalid.hasTable_relationMap hapart t
    rw [htypes] at htable
    exact htable
  case relationsByObject =>
    have htable := hvalid.hasTable_relationsByObject hapart t
    rw [htypes] at htable
    simp only [TypeDefinition.relationNames_symbol] at htable
    exact htable
  case tupleKeyMap =>
    have htable := hvalid.hasTable_tupleKeyMap hapart t
    rw [htypes] at htable
    exact htable
  case relationCategories =>
    have htable := hvalid.areEntries_relationCategories hapart t
    rw [htypes] at htable
    exact htable
  case union =>
    have hunion := hvalid.areMembers_tupleKey hapart t
    rw [htypes] at hunion
    exact hunion
  case relations =>
    intro d hd
    have hkeys : (d.symbol.relations.map (·.identifier)).Nodup := by
      rw [TypeDefinition.symbol, List.map_map]
      exact hapart.nodup_relationIdentifiers hvalid.distinct hd
    have htable := hvalid.hasTable_relations hapart t (hsymbol d hd) hkeys
    rw [TypeDefinition.symbol, List.map_map] at htable
    exact htable
  case categories =>
    intro d hd
    have htable := hvalid.tableOf_categories hapart t (hsymbol d hd)
    rw [← TypeDefinition.relationNames_symbol d]
    refine ⟨_, htable, ?_, ?_, ?_⟩
    · rw [List.map_map]
      rfl
    · rw [List.flatMap_map]
      exact d.symbol.perm_namesIn
    · rw [List.forall_mem_map]
      exact fun c _ => d.symbol.sublist_namesIn c
  case never =>
    rw [Module.neverTypes_moduleText hvalid.isPlain_table m.isNamed_table, Model.table,
      List.isEmpty_map, List.filter_map, List.map_map]
    simp only [Function.comp_def, TypeDefinition.symbol, List.isEmpty_map]

theorem isListedIn_sharedPrototypes : ∃ g, sharedPrototypes.generateAt default = .ok g ∧
    sharedPrototypes.IsListedIn g.source := by
  have h := Model.generateAt_of_problems_eq_nil (m := sharedPrototypes) (by decide) (by decide)
    default
  exact ⟨_, h, isListedIn_of_generateAt h⟩

end Relata
