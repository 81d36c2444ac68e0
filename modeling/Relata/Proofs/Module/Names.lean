import Mathlib.Data.List.Nodup
import Relata.Proofs.SymbolTable
import Relata.Proofs.Validation

/-!
# Names of a module

The names that a module declares: some in every module, and five for each type, which are put
together from the stem of the type and a suffix. A stem starts with no small letter and no suffix
ends another, so no two of these names are the same.

## Main definitions

* `fixedNames`, `TypeSymbol.declaredNames` — the names of every module and those of one type.
* `SymbolTable.declaredNames` — all names.
* `SymbolTable.IsNamed` — the identifiers and stems of a table are well formed.

## Main results

* `SymbolTable.nodup_declaredNames` — the names are distinct.
* `SymbolTable.isIdentifier_declaredNames` — the names are identifiers.
-/

namespace Relata

/-- The names that every module declares. -/
def fixedNames : List String :=
  ["ObjectTypes", "ObjectTypeName", "RelationMap", "RelationsByObject", "ConditionNames",
    "ConditionName", "TupleKeyCondition", "TupleKeyMap", "TupleKey", "EmptyIdentifierError",
    "UnknownRelationError", "ParsedObject", "isObjectType", "formatObject", "parseObject",
    "isValidRelation", "buildTupleKey", "GENERATED_AT", "MODEL_METADATA"]

/-- What the names of the declarations of a type end in. -/
def declarationSuffixes : List String :=
  ["Type", "Relations", "Relation", "RelationCategories", "TupleKey"]

/-- The names that a module declares for a type. -/
def TypeSymbol.declaredNames (t : TypeSymbol) : List String :=
  declarationSuffixes.map (t.stem ++ ·)

/-- The names that the module for a table declares. -/
def SymbolTable.declaredNames (table : SymbolTable) : List String :=
  fixedNames ++ table.types.flatMap TypeSymbol.declaredNames

/-- What a table calls its types and relations. -/
structure SymbolTable.IsNamed (table : SymbolTable) : Prop where
  stem : ∀ t ∈ table.types, IsStem t.stem
  identifier : ∀ t ∈ table.types, IsIdentifier t.identifier
  relationIdentifier : ∀ t ∈ table.types, ∀ r ∈ t.relations, IsIdentifier r.identifier

/-! ### Stems and suffixes -/

/-- No suffix ends another one. -/
theorem eq_of_suffix {s s' : String} (hs : s ∈ declarationSuffixes)
    (hs' : s' ∈ declarationSuffixes) (h : s.toList <:+ s'.toList) : s = s' := by
  have hall : ∀ s ∈ declarationSuffixes, ∀ s' ∈ declarationSuffixes,
      s.toList <:+ s'.toList → s = s' := by decide
  exact hall s hs s' hs' h

/-- A name tells its stem and its suffix. -/
theorem append_suffix_inj {stem stem' s s' : String} (hs : s ∈ declarationSuffixes)
    (hs' : s' ∈ declarationSuffixes) (h : stem ++ s = stem' ++ s') : stem = stem' ∧ s = s' := by
  have hsuffix : s.toList <:+ (stem' ++ s').toList := by
    rw [← h, String.toList_append]
    exact List.suffix_append _ _
  have hsuffix' : s'.toList <:+ (stem' ++ s').toList := by
    rw [String.toList_append]
    exact List.suffix_append _ _
  -- both suffixes end the same text, so one of them ends the other
  obtain rfl : s = s' := by
    rcases List.suffix_or_suffix_of_suffix hsuffix hsuffix' with hle | hle
    · exact eq_of_suffix hs hs' hle
    · exact (eq_of_suffix hs' hs hle).symm
  exact ⟨(String.append_left_inj s).mp h, rfl⟩

/-- A name of every module that ends in a suffix is the suffix or starts with a small letter. -/
theorem fixedNames_suffix {name s : String} (hname : name ∈ fixedNames)
    (hs : s ∈ declarationSuffixes) (h : s.toList <:+ name.toList) :
    name = s ∨ ∃ c ∈ name.toList.head?, c.isLower = true := by
  have hall : ∀ name ∈ fixedNames, ∀ s ∈ declarationSuffixes, s.toList <:+ name.toList →
      name = s ∨ ∃ c ∈ name.toList.head?, c.isLower = true := by decide
  exact hall name hname s hs h

theorem IsStem.head?_append {stem : String} (h : IsStem stem) (s : String) :
    (stem ++ s).toList.head? = stem.toList.head? := by
  rw [String.toList_append, List.head?_append_of_ne_nil _ h.ne_nil]

/-- No name of every module is one of a type. -/
theorem IsStem.append_suffix_notMem {stem s : String} (h : IsStem stem)
    (hs : s ∈ declarationSuffixes) : stem ++ s ∉ fixedNames := by
  intro hmem
  have hsuffix : s.toList <:+ (stem ++ s).toList := by
    rw [String.toList_append]
    exact List.suffix_append _ _
  rcases fixedNames_suffix hmem hs hsuffix with heq | ⟨c, hc, hlower⟩
  · -- a stem is not empty
    have hempty : stem = "" := by
      have hleft : stem ++ s = "" ++ s := by rw [heq, String.empty_append]
      exact (String.append_left_inj s).mp hleft
    exact h.ne_nil (by rw [hempty]; rfl)
  · -- and starts with no small letter
    rw [h.head?_append] at hc
    rw [(h.head c hc).2] at hlower
    contradiction

/-- A suffix has identifier characters only, and one of them is a capital. -/
theorem chars_of_mem_declarationSuffixes {s : String} (hs : s ∈ declarationSuffixes) :
    (∀ c ∈ s.toList, isIdentifierChar c = true) ∧ ∃ c ∈ s.toList, c.isUpper = true := by
  have hall : ∀ s ∈ declarationSuffixes, (∀ c ∈ s.toList, isIdentifierChar c = true) ∧
      ∃ c ∈ s.toList, c.isUpper = true := by decide
  exact hall s hs

/-- No reserved word has a capital. -/
theorem isReservedWord_eq_false {s : String} (h : ∃ c ∈ s.toList, c.isUpper = true) :
    isReservedWord s = false := by
  have hall : ∀ w ∈ reservedWords, ∀ c ∈ w.toList, c.isUpper = false := by decide
  obtain ⟨c, hc, hupper⟩ := h
  rw [isReservedWord, Bool.eq_false_iff, ne_eq, List.contains_iff_mem]
  intro hmem
  rw [hall s hmem c hc] at hupper
  exact Bool.noConfusion hupper

/-- A stem with a suffix is an identifier. -/
theorem IsStem.isIdentifier_append {stem s : String} (h : IsStem stem)
    (hs : s ∈ declarationSuffixes) : IsIdentifier (stem ++ s) := by
  obtain ⟨hchars, c, hc, hupper⟩ := chars_of_mem_declarationSuffixes hs
  exact {
    ne_nil := by simp [h.ne_nil]
    chars := by
      rw [String.toList_append]
      exact List.forall_mem_append.mpr ⟨h.chars, hchars⟩
    head := by
      rw [h.head?_append]
      exact fun d hd => (h.head d hd).1
    notReserved := isReservedWord_eq_false ⟨c, by simp [hc], hupper⟩ }

/-! ### All names -/

namespace SymbolTable

variable {table : SymbolTable}

/-- The names of a module are distinct if the stems of its types are. -/
theorem nodup_declaredNames (hstems : (table.types.map (·.stem)).Nodup)
    (h : table.IsNamed) : table.declaredNames.Nodup := by
  have hfixed : fixedNames.Nodup := by decide
  have hsuffixes : declarationSuffixes.Nodup := by decide
  have hnames : ∀ t ∈ table.types, t.declaredNames.Nodup := fun t _ =>
    hsuffixes.map fun s s' hss => (String.append_right_inj t.stem).mp hss
  have hpairwise : table.types.Pairwise fun t u => t.declaredNames.Disjoint u.declaredNames := by
    refine (List.pairwise_map.mp hstems).imp fun {t u} hne name ht hu => ?_
    obtain ⟨s, hs, rfl⟩ := List.mem_map.mp ht
    obtain ⟨s', hs', heq⟩ := List.mem_map.mp hu
    exact hne (append_suffix_inj hs' hs heq).1.symm
  have htypes : (table.types.flatMap TypeSymbol.declaredNames).Nodup :=
    List.nodup_flatMap.mpr ⟨hnames, hpairwise⟩
  refine List.Nodup.append hfixed htypes fun name hname hmem => ?_
  obtain ⟨t, ht, hname'⟩ := List.mem_flatMap.mp hmem
  obtain ⟨s, hs, rfl⟩ := List.mem_map.mp hname'
  exact (h.stem t ht).append_suffix_notMem hs hname

/-- The names of a module are identifiers. -/
theorem isIdentifier_declaredNames (h : table.IsNamed) :
    ∀ name ∈ table.declaredNames, IsIdentifier name := by
  have hfixed : ∀ name ∈ fixedNames, IsIdentifier name := by decide
  refine List.forall_mem_append.mpr ⟨hfixed, fun name hname => ?_⟩
  obtain ⟨t, ht, hname⟩ := List.mem_flatMap.mp hname
  obtain ⟨s, hs, rfl⟩ := List.mem_map.mp hname
  exact (h.stem t ht).isIdentifier_append hs

end SymbolTable

/-! ### Names of models -/

namespace Model

variable {m : Model}

/-- The names of a table are sanitized. -/
theorem isNamed_table (m : Model) : m.table.IsNamed where
  stem := List.forall_mem_map.mpr fun t _ => (isIdentifier_sanitize t.name).isStem_pascalCase
  identifier := List.forall_mem_map.mpr fun t _ => isIdentifier_sanitize t.name
  relationIdentifier := List.forall_mem_map.mpr fun _ _ =>
    List.forall_mem_map.mpr fun r _ => isIdentifier_sanitize r.name

/-- What tells the names of a list apart is distinct where the names are. -/
theorem nodup_map_of_name {α : Type} {as : List α} {f name : α → String}
    (h : (as.map name).Nodup) (hf : ∀ a ∈ as, ∀ b ∈ as, f a = f b → name a = name b) :
    (as.map f).Nodup := by
  refine List.pairwise_map.mpr ((List.pairwise_map.mp h).imp_of_mem ?_)
  exact fun ha hb hne heq => hne (hf _ ha _ hb heq)

/-- The stems of a valid model without collisions are distinct. -/
theorem NamesAreApart.nodup_stems (h : m.NamesAreApart) (hd : m.NamesAreDistinct) :
    (m.table.types.map (·.stem)).Nodup := by
  have hstems : m.table.types.map (·.stem) = m.types.map TypeDefinition.stem := by
    simp [table, TypeDefinition.symbol]
  rw [hstems]
  exact nodup_map_of_name hd.types h.types

/-- So are the identifiers of its types. -/
theorem NamesAreApart.nodup_identifiers (h : m.NamesAreApart) (hd : m.NamesAreDistinct) :
    (m.types.map fun t => sanitize t.name).Nodup :=
  nodup_map_of_name hd.types fun t ht u hu heq =>
    h.types t ht u hu (TypeDefinition.stem_congr heq)

/-- So are the identifiers of the relations of each type. -/
theorem NamesAreApart.nodup_relationIdentifiers (h : m.NamesAreApart) (hd : m.NamesAreDistinct)
    {t : TypeDefinition} (ht : t ∈ m.types) : (t.relations.map fun r => sanitize r.name).Nodup :=
  nodup_map_of_name (hd.relations t ht) (h.relations t ht)

end Model

end Relata
