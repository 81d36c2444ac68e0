import Relata.Proofs.SymbolTable
import Relata.Proofs.Validation
import Relata.Reference

/-!
# Object references read back

The name of a type holds no separator, so the first separator of a reference ends the type, whatever
the id holds. References to the objects of a model and pairs of a type and an id are therefore in
bijection.

## Main results

* `splitReference_eq_some` — what a text is split into.
* `SymbolTable.parseObject_eq_some` — which texts are references, and to what.
* `SymbolTable.type?_table`, `SymbolTable.isValidRelation_table` — a table and its model agree on
  look-ups.
* `parseObject_formatObject` — **references and pairs of a type and an id are in bijection.**
-/

namespace Relata

/-! ### Texts -/

/-- A text is split at its first separator. -/
theorem splitReference_eq_some {cs type id : List Char} :
    splitReference cs = some (type, id) ↔
      objectSeparator ∉ type ∧ cs = type ++ objectSeparator :: id := by
  induction cs generalizing type with
  | nil => simp [splitReference]
  | cons c cs ih =>
    rw [splitReference]
    by_cases hc : c = objectSeparator
    · rw [if_pos hc]
      cases type with
      | nil => simp [hc]
      | cons d type =>
        -- the separator comes first, so it cannot stand behind a type
        refine iff_of_false (by simp) ?_
        rintro ⟨hnot, heq⟩
        obtain rfl : c = d := (List.cons.inj heq).1
        exact hnot (hc ▸ List.mem_cons_self)
    · rw [if_neg hc]
      cases type with
      | nil =>
        refine iff_of_false (by simp) ?_
        rintro ⟨-, heq⟩
        exact hc (List.cons.inj heq).1
      | cons d type =>
        simp only [Option.map_eq_some_iff, Prod.exists, Prod.mk.injEq, List.cons.injEq,
          List.cons_append, List.mem_cons, not_or]
        constructor
        · rintro ⟨type', id', hsplit, ⟨rfl, rfl⟩, rfl⟩
          obtain ⟨hnot, rfl⟩ := ih.mp hsplit
          exact ⟨⟨Ne.symm hc, hnot⟩, rfl, rfl⟩
        · rintro ⟨⟨-, hnot⟩, rfl, rfl⟩
          exact ⟨type, id, ih.mpr ⟨hnot, rfl⟩, ⟨rfl, rfl⟩, rfl⟩

theorem toList_referenceText (type id : String) :
    (referenceText type id).toList = type.toList ++ objectSeparator :: id.toList := by
  simp [referenceText]

/-- A reference is written if its id is not empty. -/
theorem formatObject_eq_ok {type id v : String} :
    formatObject type id = .ok v ↔ id ≠ "" ∧ v = referenceText type id := by
  rw [formatObject]
  by_cases h : id = ""
  · simp [h]
  · rw [if_neg h, Except.ok.injEq]
    exact ⟨fun heq => ⟨h, heq.symm⟩, fun heq => heq.2.symm⟩

/-- Two references with types that hold no separator are the same text only if they are the same
reference. -/
theorem referenceText_inj {type type' id id' : String} (h : objectSeparator ∉ type.toList)
    (h' : objectSeparator ∉ type'.toList) (heq : referenceText type id = referenceText type' id') :
    type = type' ∧ id = id' := by
  have hsplit : splitReference (referenceText type id).toList = some (type.toList, id.toList) :=
    splitReference_eq_some.mpr ⟨h, toList_referenceText type id⟩
  have hsplit' : splitReference (referenceText type id).toList = some (type'.toList, id'.toList) :=
    splitReference_eq_some.mpr ⟨h', heq ▸ toList_referenceText type' id'⟩
  rw [hsplit, Option.some.injEq, Prod.mk.injEq] at hsplit'
  exact ⟨String.toList_inj.mp hsplit'.1, String.toList_inj.mp hsplit'.2⟩

namespace SymbolTable

/-- A text is a reference if a type of the table stands before its first separator and an id behind
it. -/
theorem parseObject_eq_some {table : SymbolTable} {v : String} {o : ObjectReference} :
    table.parseObject v = some o ↔ objectSeparator ∉ o.type.toList ∧ o.id ≠ "" ∧
      (table.type? o.type).isSome = true ∧ o.text = v := by
  have htext : o.text = v ↔ v.toList = o.type.toList ++ objectSeparator :: o.id.toList := by
    rw [← toList_referenceText, String.toList_inj, ObjectReference.text]
    exact eq_comm
  rw [parseObject, htext]
  cases hsplit : splitReference v.toList with
  | none =>
    refine iff_of_false (by simp) ?_
    rintro ⟨hnot, -, -, heq⟩
    rw [splitReference_eq_some.mpr ⟨hnot, heq⟩] at hsplit
    cases hsplit
  | some pair =>
    obtain ⟨type, id⟩ := pair
    obtain ⟨hnot, hv⟩ := splitReference_eq_some.mp hsplit
    simp only [Option.bind_eq_bind, Option.bind_some, Option.ite_none_left_eq_some,
      Bool.or_eq_true, List.isEmpty_iff, Option.isNone_iff_eq_none, not_or, Option.some.injEq]
    constructor
    · rintro ⟨⟨hid, htype⟩, rfl⟩
      refine ⟨by simpa using hnot, ?_, Option.isSome_iff_ne_none.mpr htype, by simpa using hv⟩
      exact fun hempty => hid (by simpa using congrArg String.toList hempty)
    · rintro ⟨hnot', hid, htype, hv'⟩
      -- both pairs are what the text is split into
      have hsplit' := splitReference_eq_some.mpr ⟨hnot', hv'⟩
      rw [hsplit, Option.some.injEq, Prod.mk.injEq] at hsplit'
      obtain ⟨rfl, rfl⟩ := hsplit'
      simp only [String.ofList_toList, and_true]
      exact ⟨fun hempty => hid (String.toList_inj.mp (by simpa using hempty)),
        Option.isSome_iff_ne_none.mp htype⟩

/-! ### Look-ups -/

/-- The entry found under a name is that of the type found under it. -/
theorem type?_table (m : Model) (name : String) :
    m.table.type? name = (m.typeNamed? name).map TypeDefinition.symbol := by
  rw [type?, Model.table, List.find?_map]
  rfl

end SymbolTable

/-- The entry found under a name is that of the relation found under it. -/
theorem TypeDefinition.relation?_symbol (t : TypeDefinition) (name : String) :
    t.symbol.relation? name = (t.relationNamed? name).map Relation.symbol := by
  rw [TypeSymbol.relation?, TypeDefinition.symbol, List.find?_map]
  rfl

namespace SymbolTable

/-- A table and its model agree on which type has which relation. -/
theorem isValidRelation_table (m : Model) (type relation : String) :
    m.table.isValidRelation type relation = m.hasRelation type relation := by
  rw [isValidRelation, type?_table, Model.hasRelation, Model.relationNamed?]
  cases m.typeNamed? type with
  | none => rfl
  | some t =>
    rw [Option.map_some, Option.any_some, Option.bind_some, TypeSymbol.hasRelation,
      t.relation?_symbol, Option.isSome_map]

/-- The types of a model are found under their names. -/
theorem isSome_type?_table {m : Model} {name : String} :
    (m.table.type? name).isSome = true ↔ ∃ t ∈ m.types, t.name = name := by
  simp [type?_table, Model.typeNamed?]

end SymbolTable

/-! ### References of models -/

/-- The name of a type holds no separator. -/
theorem IsUsableName.separator_notMem {name : String} (h : IsUsableName name) :
    objectSeparator ∉ name.toList :=
  fun hmem => (h.noDelimiter objectSeparator hmem).1 rfl

/-- **References and pairs of a type and an id are in bijection.** A reference to an object of a
type of the model is read back, whatever the id; what is read is a type of the model and an id, and
is written as the text that was read; and no two pairs are written alike. -/
theorem parseObject_formatObject {m : Model} {table : SymbolTable} (hv : m.validate = .ok ())
    (hb : SymbolTable.build m = .ok table) :
    (∀ t ∈ m.types, ∀ id : String, id ≠ "" → ∃ v, formatObject t.name id = .ok v ∧
        table.parseObject v = some ⟨t.name, id⟩) ∧
      (∀ (v : String) (o : ObjectReference), table.parseObject v = some o →
        (∃ t ∈ m.types, t.name = o.type) ∧ o.id ≠ "" ∧ formatObject o.type o.id = .ok v ∧
          o.text = v) ∧
      ∀ t ∈ m.types, ∀ u ∈ m.types, ∀ id id' v : String, formatObject t.name id = .ok v →
        formatObject u.name id' = .ok v → t.name = u.name ∧ id = id' := by
  have hvalid : m.IsValid := (Model.validate_eq_ok.trans Model.problems_eq_nil).mp hv
  obtain ⟨rfl, -⟩ := SymbolTable.build_eq_ok.mp hb
  have hname : ∀ t ∈ m.types, objectSeparator ∉ t.name.toList :=
    fun t ht => (hvalid.typeNames t ht).separator_notMem
  refine ⟨fun t ht id hid => ?_, fun v o ho => ?_, fun t ht u hu id id' v hv hv' => ?_⟩
  · refine ⟨referenceText t.name id, formatObject_eq_ok.mpr ⟨hid, rfl⟩, ?_⟩
    exact SymbolTable.parseObject_eq_some.mpr
      ⟨hname t ht, hid, SymbolTable.isSome_type?_table.mpr ⟨t, ht, rfl⟩, rfl⟩
  · obtain ⟨-, hid, htype, rfl⟩ := SymbolTable.parseObject_eq_some.mp ho
    exact ⟨SymbolTable.isSome_type?_table.mp htype, hid, formatObject_eq_ok.mpr ⟨hid, rfl⟩, rfl⟩
  · obtain ⟨-, rfl⟩ := formatObject_eq_ok.mp hv
    obtain ⟨-, heq⟩ := formatObject_eq_ok.mp hv'
    exact referenceText_inj (hname t ht) (hname u hu) heq

/-- Files, and folders that are called like the start of a file. -/
def filesAndFolders : Model where
  id := none
  schemaVersion := "1.1"
  types := [⟨"user", []⟩, ⟨"fi", []⟩, ⟨"file", []⟩]
  conditions := []

theorem parseObject_filesAndFolders : ∃ table, SymbolTable.build filesAndFolders = .ok table ∧
    (∃ v, formatObject "fi" "le:#a\n:" = .ok v ∧
      table.parseObject v = some ⟨"fi", "le:#a\n:"⟩) ∧
    ∀ v o, table.parseObject v = some o → o.text = v := by
  have hv : filesAndFolders.validate = .ok () := Model.validate_eq_ok.mpr (by decide)
  have hb : SymbolTable.build filesAndFolders = .ok filesAndFolders.table :=
    SymbolTable.build_eq_ok.mpr ⟨rfl, Model.symbols_snd_eq_none.mp (by decide)⟩
  obtain ⟨hformat, hparse, -⟩ := parseObject_formatObject hv hb
  have hmem : (⟨"fi", []⟩ : TypeDefinition) ∈ filesAndFolders.types :=
    List.mem_cons_of_mem _ List.mem_cons_self
  exact ⟨_, hb, hformat _ hmem "le:#a\n:" (by decide), fun v o ho => (hparse v o ho).2.2.2⟩

end Relata
