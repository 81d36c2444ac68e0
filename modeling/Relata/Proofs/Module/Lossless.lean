import Relata.Proofs.Module.Lines

/-!
# A module tells its table

Two models whose modules at one time are the same text have the same table. Reading a module from
its start, every part tells where it ends: the constants of the types end where the table of types
starts, the entries of a block where a line is not indented, and a literal at its own quote.

## Main results

* `objectTypes_append_inj` — the section of types tells their names.
* `relationGroup_append_inj` — the declarations of a type tell its relations.
* `table_eq_of_source_eq` — **models with the same module have the same table.**
-/

namespace Relata

open Source

/-! ### Parts of a list -/

/-- Two lists that start with runs of a kind of elements, up to one of another kind, agree part by
part. -/
theorem run_append_inj {α : Type} {p : α → Prop} {xs ys as bs : List α} {a b : α}
    (hxs : ∀ x ∈ xs, p x) (hys : ∀ y ∈ ys, p y) (ha : ¬ p a) (hb : ¬ p b)
    (h : xs ++ a :: as = ys ++ b :: bs) : xs = ys ∧ a :: as = b :: bs := by
  induction xs generalizing ys with
  | nil =>
    cases ys with
    | nil => exact ⟨rfl, h⟩
    | cons y ys =>
      obtain ⟨rfl, -⟩ := List.cons.inj h
      exact absurd (hys a List.mem_cons_self) ha
  | cons x xs ih =>
    cases ys with
    | nil =>
      obtain ⟨rfl, -⟩ := List.cons.inj h
      exact absurd (hxs x List.mem_cons_self) hb
    | cons y ys =>
      obtain ⟨rfl, hrest⟩ := List.cons.inj h
      obtain ⟨rfl, htail⟩ := ih (fun z hz => hxs z (List.mem_cons_of_mem x hz))
        (fun z hz => hys z (List.mem_cons_of_mem x hz)) hrest
      exact ⟨rfl, htail⟩

/-- Two texts that start with parts without a character, up to that character, agree part by
part. -/
theorem append_inj_of_notMem {c : Char} {s s' : String} {rest rest' : List Char}
    (hs : c ∉ s.toList) (hs' : c ∉ s'.toList)
    (h : s.toList ++ c :: rest = s'.toList ++ c :: rest') : s = s' ∧ rest = rest' := by
  obtain ⟨hss, hrest⟩ := run_append_inj (p := (· ≠ c)) (fun x hx he => hs (he ▸ hx))
    (fun x hx he => hs' (he ▸ hx)) (fun hne => hne rfl) (fun hne => hne rfl) h
  exact ⟨String.toList_inj.mp hss, (List.cons.inj hrest).2⟩

/-- Lists with the same texts have the same names if a text tells a name. -/
theorem map_eq_map_of_tells {α β γ : Type} {f : α → β} {g : α → γ} {as bs : List α}
    (hfg : ∀ a ∈ as, ∀ b ∈ bs, f a = f b → g a = g b) (h : as.map f = bs.map f) :
    as.map g = bs.map g := by
  induction as generalizing bs with
  | nil =>
    rw [List.map_nil, eq_comm, List.map_eq_nil_iff] at h
    rw [h]
  | cons a as ih =>
    cases bs with
    | nil => simp at h
    | cons b bs =>
      obtain ⟨hab, htail⟩ := List.cons.inj h
      have hfg' : ∀ c ∈ as, ∀ d ∈ bs, f c = f d → g c = g d := fun c hc d hd =>
        hfg c (List.mem_cons_of_mem a hc) d (List.mem_cons_of_mem b hd)
      rw [List.map_cons, List.map_cons, hfg a List.mem_cons_self b List.mem_cons_self hab,
        ih hfg' htail]

/-! ### Entries of models -/

/-- An entry whose identifiers come from the names, and whose relations have names of their own. -/
structure TypeSymbol.IsFaithful (t : TypeSymbol) : Prop where
  identifier : t.identifier = sanitize t.name
  stem : t.stem = pascalCase (sanitize t.name)
  relationIdentifier : ∀ r ∈ t.relations, r.identifier = sanitize r.name
  relationNames : t.relationNames.Nodup

theorem Model.IsValid.isFaithful {m : Model} (h : m.IsValid) :
    ∀ t ∈ m.table.types, t.IsFaithful := by
  refine List.forall_mem_map.mpr fun t ht => ⟨rfl, rfl, List.forall_mem_map.mpr fun r _ => rfl, ?_⟩
  have hnames : t.symbol.relationNames = t.relations.map (·.name) := by
    simp [TypeDefinition.symbol, TypeSymbol.relationNames, Relation.symbol]
  rw [hnames]
  exact h.distinct.relations t ht

/-- A sanitized name holds identifier characters only. -/
theorem notMem_sanitize {c : Char} (hc : isIdentifierChar c = false) (name : String) :
    c ∉ (sanitize name).toList := by
  intro hmem
  rw [(isIdentifier_sanitize name).chars c hmem] at hc
  contradiction

theorem notMem_pascalCase {c : Char} (hc : isIdentifierChar c = false) (name : String) :
    c ∉ (pascalCase (sanitize name)).toList := by
  intro hmem
  rw [(isIdentifier_sanitize name).isStem_pascalCase.chars c hmem] at hc
  contradiction

namespace Module

/-! ### Types -/

theorem typeConstant_text_ne (t : TypeSymbol) :
    (typeConstant t).text ≠ "export const ObjectTypes = \x7b" := by
  intro h
  have hsemicolon : (typeConstant t).text.toList.getLast? = some ';' := by
    rw [typeConstant, Line.text_flush, String.toList_append, List.getLast?_append]
    rfl
  rw [h] at hsemicolon
  simp at hsemicolon

/-- The constant of a type tells its name. -/
theorem typeConstant_text_inj {t u : TypeSymbol} (ht : t.IsFaithful) (hu : u.IsFaithful)
    (h : (typeConstant t).text = (typeConstant u).text) : t.name = u.name := by
  have hblank : ∀ {v : TypeSymbol}, v.IsFaithful → ' ' ∉ (v.stem ++ "Type").toList := by
    intro v hv
    rw [hv.stem, String.toList_append, List.mem_append, not_or]
    exact ⟨notMem_pascalCase (by decide) v.name, by decide⟩
  have hchars : (t.stem ++ "Type").toList ++
        ' ' :: ("= " ++ (stringLiteral t.name ++ " as const;")).toList =
      (u.stem ++ "Type").toList ++
        ' ' :: ("= " ++ (stringLiteral u.name ++ " as const;")).toList := by
    simpa [typeConstant] using congrArg String.toList h
  have hrest := String.toList_inj.mp (append_inj_of_notMem (hblank ht) (hblank hu) hchars).2
  exact (stringLiteral_append_inj ((String.append_right_inj "= ").mp hrest)).1

/-- The constants of the types, with the empty line behind them, tell the names. -/
theorem typeConstants_inj {ts us : List TypeSymbol} (hts : ∀ t ∈ ts, t.IsFaithful)
    (hus : ∀ u ∈ us, u.IsFaithful)
    (h : ts.map (fun t => (typeConstant t).text) ++ (if ts.isEmpty then [] else [""]) =
      us.map (fun u => (typeConstant u).text) ++ (if us.isEmpty then [] else [""])) :
    ts.map (·.name) = us.map (·.name) := by
  have hconstants : ts.map (fun t => (typeConstant t).text) =
      us.map fun u => (typeConstant u).text := by
    cases ts with
    | nil =>
      cases us with
      | nil => rfl
      | cons u us => simp at h
    | cons t ts =>
      cases us with
      | nil => simp at h
      | cons u us => exact List.append_inj_left' h rfl
  exact map_eq_map_of_tells (fun t ht u hu => typeConstant_text_inj (hts t ht) (hus u hu))
    hconstants

/-- The section of types: the constants, and the table behind the line that opens it. -/
theorem text_objectTypes (table : SymbolTable) (after : List String) :
    (objectTypes table).map Line.text ++ after =
      (table.types.map (fun t => (typeConstant t).text) ++
          if table.types.isEmpty then [] else [""]) ++
        "export const ObjectTypes = \x7b" ::
          (table.types.map (fun t => (objectTypeEntry t).deeper.text) ++ (["\x7d as const;", "",
            if table.types.isEmpty then "export type ObjectTypeName = never;"
            else "export type ObjectTypeName = (typeof ObjectTypes)[keyof typeof ObjectTypes];"] ++
              after)) := by
  by_cases h : table.types = [] <;> simp [objectTypes, block, h, Function.comp_def]

/-- The constants run up to the line that opens the table of types. -/
theorem typeConstants_ne_opening (table : SymbolTable) :
    ∀ line ∈ table.types.map (fun t => (typeConstant t).text) ++
      (if table.types.isEmpty then [] else [""]), line ≠ "export const ObjectTypes = \x7b" := by
  intro line hline
  rcases List.mem_append.mp hline with hline | hline
  · obtain ⟨t, -, rfl⟩ := List.mem_map.mp hline
    exact typeConstant_text_ne t
  · split at hline
    · simp at hline
    · rw [List.mem_singleton] at hline
      simp [hline]

/-- The section of types tells their names, and where it ends. -/
theorem objectTypes_append_inj {table table' : SymbolTable}
    (h : ∀ t ∈ table.types, t.IsFaithful) (h' : ∀ t ∈ table'.types, t.IsFaithful)
    {rest rest' : List String}
    (htexts : (objectTypes table).map Line.text ++ rest =
      (objectTypes table').map Line.text ++ rest') :
    table.typeNames = table'.typeNames ∧ rest = rest' := by
  rw [text_objectTypes, text_objectTypes] at htexts
  obtain ⟨hconstants, hrest⟩ := run_append_inj (typeConstants_ne_opening table)
    (typeConstants_ne_opening table') (fun hne => hne rfl) (fun hne => hne rfl) htexts
  have hnames : table.typeNames = table'.typeNames := typeConstants_inj h h' hconstants
  -- as many types, so the rest of the section is as long
  have hlength : table.types.length = table'.types.length := by
    simpa [SymbolTable.typeNames] using congrArg List.length hnames
  have hafter := (List.append_inj (List.cons.inj hrest).2 (by simp [hlength])).2
  exact ⟨hnames, (List.append_inj hafter rfl).2⟩

/-! ### Relations -/

/-- What a relation is written as in the table of its type. -/
theorem text_relationEntry (r : RelationSymbol) : (relationEntry r).deeper.text =
    "  " ++ (propertyKey r.identifier ++ (": " ++ (stringLiteral r.name ++ ","))) := by
  have hcontent : (relationEntry r).content ≠ "" := by
    simp [relationEntry, String.append_eq_empty_iff]
  rw [Line.text_deeper hcontent, relationEntry, Line.text_flush]
  simp only [String.append_assoc]

theorem notMem_propertyKey_sanitize (name : String) :
    ':' ∉ (propertyKey (sanitize name)).toList := by
  unfold propertyKey
  split
  · decide
  · exact notMem_sanitize (by decide) name

/-- The entry of a relation tells its name. -/
theorem relationEntry_text_inj {r s : RelationSymbol} (hr : r.identifier = sanitize r.name)
    (hs : s.identifier = sanitize s.name)
    (h : (relationEntry r).deeper.text = (relationEntry s).deeper.text) : r.name = s.name := by
  rw [text_relationEntry, text_relationEntry, String.append_right_inj, hr, hs] at h
  have hchars : (propertyKey (sanitize r.name)).toList ++
        ':' :: (" " ++ (stringLiteral r.name ++ ",")).toList =
      (propertyKey (sanitize s.name)).toList ++
        ':' :: (" " ++ (stringLiteral s.name ++ ",")).toList := by
    simpa using congrArg String.toList h
  have hrest := String.toList_inj.mp (append_inj_of_notMem (notMem_propertyKey_sanitize r.name)
    (notMem_propertyKey_sanitize s.name) hchars).2
  exact (stringLiteral_append_inj ((String.append_right_inj " ").mp hrest)).1

/-- A type without relations has its table on one line. -/
theorem text_relationTable_nil {t : TypeSymbol} (ht : t.relations = []) (after : List String) :
    (relationTable t).map Line.text ++ after =
      ("export const " ++ (t.stem ++ "Relations = \x7b\x7d as const;")) ::
        ("export type " ++ t.stem ++ "Relation = never;") :: after := by
  simp [relationTable, ht, String.append_assoc]

theorem text_relationTable {t : TypeSymbol} (ht : t.relations ≠ []) (after : List String) :
    (relationTable t).map Line.text ++ after =
      ("export const " ++ (t.stem ++ "Relations = \x7b")) ::
        (t.relations.map (fun r => (relationEntry r).deeper.text) ++ "\x7d as const;" ::
          ("export type " ++ t.stem ++ "Relation = (typeof " ++ t.stem ++
            "Relations)[keyof typeof " ++ t.stem ++ "Relations];") :: after) := by
  simp [relationTable, block, ht, String.append_assoc, Function.comp_def]

/-- The entries of a table are indented. -/
theorem head?_relationEntry_text (t : TypeSymbol) :
    ∀ line ∈ t.relations.map (fun r => (relationEntry r).deeper.text),
      line.toList.head? = some ' ' := by
  refine List.forall_mem_map.mpr fun r _ => ?_
  rw [text_relationEntry, String.toList_append]
  rfl

/-- The table of the relations of a type tells their names, and where it ends. -/
theorem relationTable_append_inj {t u : TypeSymbol} (ht : t.IsFaithful) (hu : u.IsFaithful)
    (hstem : t.stem = u.stem) {rest rest' : List String}
    (h : (relationTable t).map Line.text ++ rest = (relationTable u).map Line.text ++ rest') :
    t.relationNames = u.relationNames ∧ rest = rest' := by
  by_cases htn : t.relations = []
  · by_cases hun : u.relations = []
    · rw [text_relationTable_nil htn, text_relationTable_nil hun] at h
      simp only [List.cons.injEq] at h
      exact ⟨by simp [TypeSymbol.relationNames, htn, hun], h.2.2⟩
    · rw [text_relationTable_nil htn, text_relationTable hun, hstem] at h
      simp at h
  · by_cases hun : u.relations = []
    · rw [text_relationTable htn, text_relationTable_nil hun, hstem] at h
      simp at h
    · rw [text_relationTable htn, text_relationTable hun] at h
      -- the line that closes the table is not indented
      have hclosing : ¬ "\x7d as const;".toList.head? = some ' ' := by simp
      obtain ⟨hentries, hrest⟩ := run_append_inj (head?_relationEntry_text t)
        (head?_relationEntry_text u) hclosing hclosing (List.cons.inj h).2
      simp only [List.cons.injEq, true_and] at hrest
      refine ⟨map_eq_map_of_tells (fun r hr s hs => ?_) hentries, hrest.2⟩
      exact relationEntry_text_inj (ht.relationIdentifier r hr) (hu.relationIdentifier s hs)

/-- What a category is written as. -/
theorem text_categoryEntry (t : TypeSymbol) (c : Category) : (categoryEntry t c).deeper.text =
    "  " ++ (c.name ++ (": " ++ (stringList (t.namesIn c) ++ ","))) := by
  have hcontent : (categoryEntry t c).content ≠ "" := by
    simp [categoryEntry, String.append_eq_empty_iff]
  rw [Line.text_deeper hcontent, categoryEntry, Line.text_flush]
  simp only [String.append_assoc]

/-- The table of the categories of a type tells the names in each, and where it ends. -/
theorem categoryTable_append_inj {t u : TypeSymbol} {rest rest' : List String}
    (h : (categoryTable t).map Line.text ++ rest = (categoryTable u).map Line.text ++ rest') :
    (∀ c, t.namesIn c = u.namesIn c) ∧ rest = rest' := by
  obtain ⟨htexts, hrest⟩ := List.append_inj h (by simp [categoryTable, block])
  refine ⟨fun c => ?_, hrest⟩
  have hmem : c ∈ Category.all := by cases c <;> decide
  have hentries : Category.all.map (fun c => (categoryEntry t c).deeper.text) =
      Category.all.map fun c => (categoryEntry u c).deeper.text := by
    simp only [categoryTable, block, List.map_append, List.map_cons, List.map_map,
      List.cons_append] at htexts
    exact List.append_inj_left' (List.cons.inj htexts).2 rfl
  have hentry := List.map_inj_left.mp hentries c hmem
  rw [text_categoryEntry, text_categoryEntry] at hentry
  simp only [String.append_right_inj] at hentry
  exact (stringList_append_inj hentry).1

/-- Relations are told by their names and the names in each category. -/
theorem relations_eq_of_names {t u : TypeSymbol} (ht : t.IsFaithful) (hu : u.IsFaithful)
    (hnames : t.relationNames = u.relationNames) (hcategories : ∀ c, t.namesIn c = u.namesIn c) :
    t.relations = u.relations := by
  have hlength : t.relations.length = u.relations.length := by
    simpa [TypeSymbol.relationNames] using congrArg List.length hnames
  refine List.ext_getElem hlength fun i hi hi' => ?_
  have hr : t.relations[i] ∈ t.relations := List.getElem_mem hi
  have hs : u.relations[i] ∈ u.relations := List.getElem_mem hi'
  have hname : t.relations[i].name = u.relations[i].name := by
    have hget : t.relationNames[i]? = u.relationNames[i]? := by rw [hnames]
    simpa [TypeSymbol.relationNames, hi, hi'] using hget
  have hidentifier : t.relations[i].identifier = u.relations[i].identifier := by
    rw [ht.relationIdentifier _ hr, hu.relationIdentifier _ hs, hname]
  have hcategory : t.relations[i].category = u.relations[i].category := by
    have hmem : t.relations[i].name ∈ t.namesIn t.relations[i].category :=
      List.mem_map.mpr ⟨_, List.mem_filter.mpr ⟨hr, by simp⟩, rfl⟩
    rw [hcategories] at hmem
    obtain ⟨s, hs', hsname⟩ := List.mem_map.mp hmem
    obtain ⟨hsmem, hscategory⟩ := List.mem_filter.mp hs'
    -- the names are distinct, so that is the relation at the same place
    have hsame : s = u.relations[i] :=
      List.inj_on_of_nodup_map hu.relationNames hsmem hs (hsname.trans hname)
    rw [← hsame]
    exact (of_decide_eq_true hscategory).symm
  calc t.relations[i]
      = ⟨t.relations[i].name, t.relations[i].identifier, t.relations[i].category⟩ := rfl
    _ = u.relations[i] := by rw [hname, hidentifier, hcategory]

/-- The declarations of a type tell its relations, and where they end. -/
theorem relationGroup_append_inj {t u : TypeSymbol} (ht : t.IsFaithful) (hu : u.IsFaithful)
    (hname : t.name = u.name) {rest rest' : List String}
    (h : (relationGroup t).map Line.text ++ rest = (relationGroup u).map Line.text ++ rest') :
    t = u ∧ rest = rest' := by
  have hstem : t.stem = u.stem := by rw [ht.stem, hu.stem, hname]
  have hidentifier : t.identifier = u.identifier := by rw [ht.identifier, hu.identifier, hname]
  rw [relationGroup, relationGroup, List.map_append, List.map_append, List.append_assoc,
    List.append_assoc] at h
  obtain ⟨hnames, hcategories⟩ := relationTable_append_inj ht hu hstem h
  obtain ⟨hcategories, hrest⟩ := categoryTable_append_inj hcategories
  have hrelations := relations_eq_of_names ht hu hnames hcategories
  refine ⟨?_, hrest⟩
  calc t = ⟨t.name, t.identifier, t.stem, t.relations⟩ := rfl
    _ = u := by rw [hname, hidentifier, hstem, hrelations]

/-- The declarations of several types tell the types, if their names are known. -/
theorem flatMap_relationGroup_append_inj {ts us : List TypeSymbol} (hts : ∀ t ∈ ts, t.IsFaithful)
    (hus : ∀ u ∈ us, u.IsFaithful) (hnames : ts.map (·.name) = us.map (·.name))
    {rest rest' : List String}
    (h : (ts.flatMap fun t => relationGroup t ++ [.blank]).map Line.text ++ rest =
      (us.flatMap fun u => relationGroup u ++ [.blank]).map Line.text ++ rest') :
    ts = us ∧ rest = rest' := by
  induction ts generalizing us with
  | nil =>
    rw [List.map_nil, eq_comm, List.map_eq_nil_iff] at hnames
    subst hnames
    exact ⟨rfl, h⟩
  | cons t ts ih =>
    cases us with
    | nil => simp at hnames
    | cons u us =>
      rw [List.forall_mem_cons] at hts hus
      obtain ⟨hname, htail⟩ := List.cons.inj hnames
      simp only [List.flatMap_cons, List.map_append, List.append_assoc] at h
      obtain ⟨rfl, h⟩ := relationGroup_append_inj hts.1 hus.1 hname h
      obtain ⟨rfl, hrest⟩ := ih hts.2 hus.2 htail (by simpa using h)
      exact ⟨rfl, hrest⟩

/-- The section of relations tells the types, if their names are known, and where it ends. -/
theorem relationGroups_append_inj {table table' : SymbolTable}
    (h : ∀ t ∈ table.types, t.IsFaithful) (h' : ∀ t ∈ table'.types, t.IsFaithful)
    (hnames : table.typeNames = table'.typeNames) {rest rest' : List String}
    (htexts : (relationGroups table).map Line.text ++ rest =
      (relationGroups table').map Line.text ++ rest') :
    table.types = table'.types ∧ rest = rest' := by
  simp only [relationGroups, List.map_append, List.append_assoc] at htexts
  obtain ⟨htypes, hrest⟩ := flatMap_relationGroup_append_inj h h' hnames htexts
  rw [htypes] at hrest
  exact ⟨htypes, List.append_cancel_left (List.append_cancel_left hrest)⟩

/-! ### Tuple keys and metadata -/

/-- The section of tuple keys tells the conditions, if the types are known, and where it ends. -/
theorem tupleKeys_append_inj {table table' : SymbolTable} (htypes : table.types = table'.types)
    {rest rest' : List String}
    (h : (tupleKeys table).map Line.text ++ rest = (tupleKeys table').map Line.text ++ rest') :
    table.conditions = table'.conditions ∧ rest = rest' := by
  have hconditions : table.conditions = table'.conditions := by
    simp only [tupleKeys, conditionNames, List.map_append, List.map_cons, List.cons_append,
      List.cons.injEq, Line.text_flush, String.append_assoc, String.append_right_inj] at h
    exact (stringList_append_inj h.1).1
  rw [tupleKeys, tupleKeys, htypes, hconditions] at h
  exact ⟨hconditions, List.append_cancel_left h⟩

/-- The metadata tell the id and the schema version. -/
theorem metadata_inj {table table' : SymbolTable}
    (h : (metadata table).map Line.text = (metadata table').map Line.text) :
    table.modelId = table'.modelId ∧ table.schemaVersion = table'.schemaVersion := by
  simp only [metadata, block, List.map_append, List.map_cons, List.cons_append, List.nil_append,
    List.cons.injEq] at h
  obtain ⟨-, hid, hversion, -⟩ := h
  rw [Line.text_deeper (by simp [String.append_eq_empty_iff]),
    Line.text_deeper (by simp [String.append_eq_empty_iff])] at hid hversion
  simp only [Line.text_flush, String.append_assoc, String.append_right_inj] at hid hversion
  refine ⟨?_, (stringLiteral_append_inj hversion).1⟩
  cases hm : table.modelId with
  | none =>
    cases hm' : table'.modelId with
    | none => rfl
    | some id' =>
      -- `null` does not start with a quote
      rw [hm, hm'] at hid
      have hhead := congrArg (·.toList.head?) hid
      simp [Json.stringText] at hhead
  | some id =>
    cases hm' : table'.modelId with
    | none =>
      rw [hm, hm'] at hid
      have hhead := congrArg (·.toList.head?) hid
      simp [Json.stringText] at hhead
    | some id' =>
      rw [hm, hm'] at hid
      exact congrArg some (stringLiteral_append_inj hid).1

/-! ### Modules -/

/-- What stands behind the title of a section. -/
theorem sectionTexts_append_inj {title : String} {body body' : List Line}
    {rest rest' : List String}
    (h : sectionTexts title body ++ rest = sectionTexts title body' ++ rest') :
    body.map Line.text ++ "" :: rest = body'.map Line.text ++ "" :: rest' := by
  simpa [sectionTexts] using h

end Module

/-- **Models with the same module have the same table.** -/
theorem table_eq_of_source_eq {m₁ m₂ : Model} {t : Instant} {g₁ g₂ : GeneratedModule}
    (h₁ : m₁.generateAt t = .ok g₁) (h₂ : m₂.generateAt t = .ok g₂) (h : g₁.source = g₂.source) :
    ∃ table, SymbolTable.build m₁ = .ok table ∧ SymbolTable.build m₂ = .ok table := by
  obtain ⟨hvalid₁, hapart₁, rfl⟩ := Model.generateAt_eq_ok.mp h₁
  obtain ⟨hvalid₂, hapart₂, rfl⟩ := Model.generateAt_eq_ok.mp h₂
  have hlines := congrArg Text.linesOf h
  simp only [Module.linesOf_moduleText hvalid₁.isPlain_table,
    Module.linesOf_moduleText hvalid₂.isPlain_table, List.append_assoc] at hlines
  -- the header is four lines long; behind it every section tells a part of the table
  obtain ⟨-, hlines⟩ := List.append_inj hlines (by simp [Module.header])
  obtain ⟨hnames, hlines⟩ := Module.objectTypes_append_inj hvalid₁.isFaithful hvalid₂.isFaithful
    (Module.sectionTexts_append_inj hlines)
  obtain ⟨htypes, hlines⟩ := Module.relationGroups_append_inj hvalid₁.isFaithful
    hvalid₂.isFaithful hnames (Module.sectionTexts_append_inj (List.cons.inj hlines).2)
  obtain ⟨hconditions, hlines⟩ := Module.tupleKeys_append_inj htypes
    (Module.sectionTexts_append_inj (List.cons.inj hlines).2)
  have hmetadata := List.append_cancel_left (List.append_cancel_left (List.cons.inj hlines).2)
  obtain ⟨hid, hversion⟩ := Module.metadata_inj hmetadata
  have htable : m₁.table = m₂.table :=
    calc m₁.table
        = ⟨m₁.table.modelId, m₁.table.schemaVersion, m₁.table.types, m₁.table.conditions⟩ := rfl
      _ = m₂.table := by rw [hid, hversion, htypes, hconditions]
  exact ⟨m₁.table, SymbolTable.build_eq_ok.mpr ⟨rfl, hapart₁⟩,
    SymbolTable.build_eq_ok.mpr ⟨htable, hapart₂⟩⟩

/-- Notes that users of some sort can read. -/
def notes (reader : SubjectKind) : Model where
  id := some "01"
  schemaVersion := "1.1"
  types := [⟨"user", []⟩, ⟨"note", [⟨"reader", .direct [⟨"user", reader, none⟩]⟩]⟩]
  conditions := []

theorem table_eq_of_notes : ∃ g₁ g₂ : GeneratedModule,
    (notes .object).generateAt default = .ok g₁ ∧ (notes .wildcard).generateAt default = .ok g₂ ∧
      g₁.source = g₂.source ∧ ∃ table, SymbolTable.build (notes .object) = .ok table ∧
        SymbolTable.build (notes .wildcard) = .ok table := by
  have hmodule : ∀ reader, (notes reader).problems = [] → (notes reader).symbols.2 = none →
      (notes reader).generateAt default =
        .ok ⟨defaultFileName, Module.moduleText (notes reader).table default, default⟩ :=
    fun reader hproblems hsymbols => Model.generateAt_eq_ok.mpr
      ⟨Model.problems_eq_nil.mp hproblems, Model.symbols_snd_eq_none.mp hsymbols, rfl⟩
  have h₁ := hmodule .object (by decide) (by decide)
  have h₂ := hmodule .wildcard (by decide) (by decide)
  exact ⟨_, _, h₁, h₂, rfl, table_eq_of_source_eq h₁ h₂ rfl⟩

end Relata
