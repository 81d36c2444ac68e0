import Relata.Proofs.Module.Lines
import Relata.Proofs.Reference

/-!
# Tuple keys of a model

A model answers a request for a tuple key with a key exactly if it declares the relation on the type
and the id is not empty. The type is looked at first, then the relation, then the id; a relation of
another type counts for nothing. The object of a key is a reference, so it tells the type and the id
again, and a key tells the request that it answers.

## Main definitions

* `KeyRequest`, `SymbolTable.keyFor` — what a key is built from, and the answer to it.
* `SymbolTable.BuildsKeysOf` — a table answers every request as a model declares.

## Main results

* `Model.NamesAreDistinct.keyFor_eq_ok` — which requests are answered with a key, and with which.
* `buildsKeysOf_of_generateAt` — **tuple keys are built for exactly the declared relations.**
-/

namespace Relata

/-- A request for a tuple key. -/
@[ext] structure KeyRequest where
  type : String
  id : String
  relation : String
  user : String
  condition : Option TupleCondition

/-- The key that a request asks for. -/
def KeyRequest.key (q : KeyRequest) : TupleKey :=
  ⟨q.type, referenceText q.type q.id, q.relation, q.user, q.condition⟩

namespace SymbolTable

/-- The answer to a request. -/
def keyFor (table : SymbolTable) (q : KeyRequest) : Except ReferenceError TupleKey :=
  table.buildTupleKey q.type q.id q.relation q.user q.condition

/-- A table answers every request for a key as a model declares. -/
structure BuildsKeysOf (table : SymbolTable) (m : Model) : Prop where
  isOk : ∀ q, (∃ key, table.keyFor q = .ok key) ↔ m.Declares q.type q.relation ∧ q.id ≠ ""
  parts : ∀ q key, table.keyFor q = .ok key → key.type = q.type ∧ key.relation = q.relation ∧
    key.user = q.user ∧ key.condition = q.condition ∧
      table.parseObject key.object = some ⟨q.type, q.id⟩
  /-- Equal keys answer equal requests. -/
  inj : ∀ q q' key, table.keyFor q = .ok key → table.keyFor q' = .ok key → q = q'
  unknownType : ∀ q, (∀ t ∈ m.types, t.name ≠ q.type) →
    table.keyFor q = .error (.unknownType q.type)
  /-- Relations of other types do not count, and the id is not looked at. -/
  unknownRelation : ∀ t ∈ m.types, ∀ q, q.type = t.name → ¬ t.Declares q.relation →
    table.keyFor q = .error (.unknownRelation q.type q.relation)
  emptyId : ∀ q, m.Declares q.type q.relation → q.id = "" →
    table.keyFor q = .error (.emptyId q.type)

end SymbolTable

/-! ### Answers -/

theorem TypeDefinition.hasRelation_symbol {t : TypeDefinition} {relation : String} :
    t.symbol.hasRelation relation = true ↔ t.Declares relation := by
  rw [TypeSymbol.hasRelation, t.relation?_symbol, Option.isSome_map]
  simp [relationNamed?, Declares]

namespace Model

variable {m : Model} {q : KeyRequest}

/-- A request for a type that the model does not have. -/
theorem keyFor_of_unknownType (h : ∀ t ∈ m.types, t.name ≠ q.type) :
    m.table.keyFor q = .error (.unknownType q.type) := by
  have hnone : m.table.type? q.type = none := by
    rw [← Option.not_isSome_iff_eq_none, SymbolTable.isSome_type?_table]
    rintro ⟨t, ht, hname⟩
    exact h t ht hname
  rw [SymbolTable.keyFor, SymbolTable.buildTupleKey, hnone]

/-- Of types with distinct names, each has its entry under its name. -/
theorem NamesAreDistinct.type?_table (h : m.NamesAreDistinct) {t : TypeDefinition}
    (ht : t ∈ m.types) : m.table.type? t.name = some t.symbol := by
  rw [SymbolTable.type?_table, typeNamed?, find?_name_eq h.types ht, Option.map_some]

/-- A request for a relation that the type does not declare. -/
theorem NamesAreDistinct.keyFor_of_undeclared (h : m.NamesAreDistinct) {t : TypeDefinition}
    (ht : t ∈ m.types) (hq : q.type = t.name) (hr : ¬ t.Declares q.relation) :
    m.table.keyFor q = .error (.unknownRelation q.type q.relation) := by
  have hnot : ¬ t.symbol.hasRelation q.relation = true :=
    fun hr' => hr (TypeDefinition.hasRelation_symbol.mp hr')
  rw [SymbolTable.keyFor, SymbolTable.buildTupleKey, hq, h.type?_table ht]
  exact if_neg hnot

/-- A request for a relation that the type declares. Only its id can be wrong. -/
theorem NamesAreDistinct.keyFor_of_declares (h : m.NamesAreDistinct)
    (hd : m.Declares q.type q.relation) :
    m.table.keyFor q = if q.id = "" then .error (.emptyId q.type) else .ok q.key := by
  obtain ⟨t, ht, hname, hr⟩ := hd
  have hanswer : m.table.keyFor q = (formatObject q.type q.id).map fun object =>
      ⟨q.type, object, q.relation, q.user, q.condition⟩ := by
    rw [SymbolTable.keyFor, SymbolTable.buildTupleKey, ← hname, h.type?_table ht]
    exact if_pos (TypeDefinition.hasRelation_symbol.mpr hr)
  rw [hanswer, formatObject]
  split <;> rfl

/-- The requests that are answered with a key. -/
theorem NamesAreDistinct.keyFor_eq_ok (h : m.NamesAreDistinct) {key : TupleKey} :
    m.table.keyFor q = .ok key ↔
      m.Declares q.type q.relation ∧ q.id ≠ "" ∧ key = q.key := by
  by_cases hd : m.Declares q.type q.relation
  · rw [h.keyFor_of_declares hd]
    by_cases hid : q.id = ""
    · simp [hid]
    · rw [if_neg hid, Except.ok.injEq]
      exact ⟨fun hkey => ⟨hd, hid, hkey.symm⟩, fun hkey => hkey.2.2.symm⟩
  · refine iff_of_false (fun hok => ?_) fun hok => hd hok.1
    -- either the type is missing, or its definition does not declare the relation
    by_cases htype : ∀ t ∈ m.types, t.name ≠ q.type
    · rw [keyFor_of_unknownType htype] at hok
      cases hok
    · push Not at htype
      obtain ⟨t, ht, hname⟩ := htype
      rw [h.keyFor_of_undeclared ht hname.symm fun hr => hd ⟨t, ht, hname, hr⟩] at hok
      cases hok

end Model

/-! ### Keys of models -/

/-- **Tuple keys are built for exactly the declared relations.** -/
theorem buildsKeysOf_of_generateAt {m : Model} {t : Instant} {g : GeneratedModule}
    (h : m.generateAt t = .ok g) :
    ∃ table, SymbolTable.build m = .ok table ∧ table.BuildsKeysOf m := by
  obtain ⟨hvalid, hapart, -⟩ := Model.generateAt_eq_ok.mp h
  have hd : m.NamesAreDistinct := hvalid.distinct
  -- the object of a key is read back, as no name of a type holds a separator
  have hobject : ∀ q key, m.table.keyFor q = .ok key →
      m.table.parseObject key.object = some ⟨q.type, q.id⟩ := by
    intro q key hkey
    obtain ⟨⟨u, hu, hname, -⟩, hid, rfl⟩ := hd.keyFor_eq_ok.mp hkey
    have hseparator : objectSeparator ∉ q.type.toList :=
      hname ▸ (hvalid.typeNames u hu).separator_notMem
    exact SymbolTable.parseObject_eq_some.mpr
      ⟨hseparator, hid, SymbolTable.isSome_type?_table.mpr ⟨u, hu, hname⟩, rfl⟩
  refine ⟨m.table, SymbolTable.build_eq_ok.mpr ⟨rfl, hapart⟩, ?_⟩
  exact {
    isOk := fun q => by simp [hd.keyFor_eq_ok]
    parts := by
      intro q key hkey
      have hparsed := hobject q key hkey
      obtain ⟨-, -, rfl⟩ := hd.keyFor_eq_ok.mp hkey
      exact ⟨rfl, rfl, rfl, rfl, hparsed⟩
    inj := by
      intro q q' key hkey hkey'
      have hobjects := (hobject q key hkey).symm.trans (hobject q' key hkey')
      obtain ⟨htype, hid⟩ := ObjectReference.mk.inj (Option.some.inj hobjects)
      obtain ⟨-, -, hkey⟩ := hd.keyFor_eq_ok.mp hkey
      obtain ⟨-, -, hkey'⟩ := hd.keyFor_eq_ok.mp hkey'
      obtain ⟨-, -, hrelation, huser, hcondition⟩ := TupleKey.mk.inj (hkey.symm.trans hkey')
      exact KeyRequest.ext htype hid hrelation huser hcondition
    unknownType := fun q hq => Model.keyFor_of_unknownType hq
    unknownRelation := fun u hu q hq hr => hd.keyFor_of_undeclared hu hq hr
    emptyId := fun q hq hid => by rw [hd.keyFor_of_declares hq, if_pos hid] }

/-- Folders with owners and documents with readers. -/
def readableDocuments : Model where
  id := none
  schemaVersion := "1.1"
  types := [⟨"user", []⟩,
    ⟨"folder", [⟨"owner", .direct [⟨"user", .object, none⟩]⟩]⟩,
    ⟨"document", [⟨"reader", .direct [⟨"user", .object, none⟩]⟩]⟩]
  conditions := []

theorem buildsKeysOf_readableDocuments : ∃ g, readableDocuments.generateAt default = .ok g ∧
    ∃ table, SymbolTable.build readableDocuments = .ok table ∧
      table.BuildsKeysOf readableDocuments ∧
      table.keyFor ⟨"document", "a:b", "reader", "user:anne", none⟩ =
        .ok ⟨"document", "document:a:b", "reader", "user:anne", none⟩ ∧
      table.keyFor ⟨"document", "", "owner", "user:anne", none⟩ =
        .error (.unknownRelation "document" "owner") := by
  have h := Model.generateAt_of_problems_eq_nil (m := readableDocuments) (by decide) (by decide)
    default
  obtain ⟨table, hbuild, hkeys⟩ := buildsKeysOf_of_generateAt h
  obtain ⟨rfl, -⟩ := SymbolTable.build_eq_ok.mp hbuild
  exact ⟨_, h, _, hbuild, hkeys, rfl, rfl⟩

end Relata
