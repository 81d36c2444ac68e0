import Relata.Proofs.Identifier
import Relata.SymbolTable

/-!
# Symbol tables mirror their models

A scope gives an identifier to one name only. A table is therefore built if and only if no two names
of one place need the same identifier, and it then has an entry for every definition.

## Main definitions

* `Scope.IsFree` — a scope leaves an identifier to a name.
* `Relation.symbol`, `TypeDefinition.symbol` — the entries of relations and types.
* `Model.NamesAreApart` — no two names of one place need the same identifier.

## Main results

* `Scope.claim_eq_ok` — what one step of a scope does.
* `SymbolTable.build_eq_ok` — **the table of a model is built, and has an entry for every
  definition, if and only if names do not collide.**
-/

namespace Relata

/-! ### Scopes -/

namespace Scope

/-- No other name owns the identifier. -/
def IsFree (s : Scope) (identifier name : String) : Prop :=
  ∀ owner ∈ s.owner? identifier, owner = name

@[simp] theorem isFree_empty (label identifier name : String) :
    (empty label).IsFree identifier name := by
  simp [IsFree, empty, owner?]

/-- A name is given an identifier that no other name owns, and keeps others from it from then on. -/
theorem claim_eq_ok {s : Scope} {identifier name : String} (h : s.IsFree identifier name) :
    ∃ t, s.claim identifier name = .ok t ∧ ∀ i n, t.IsFree i n ↔
      s.IsFree i n ∧ (i = identifier → n = name) := by
  unfold claim
  cases ho : s.owner? identifier with
  | none =>
    refine ⟨_, rfl, fun i n => ?_⟩
    have howner : owner? ⟨s.label, (identifier, name) :: s.owners⟩ i =
        if i = identifier then some name else s.owner? i := by
      by_cases hi : i = identifier
      · simp [owner?, hi]
      · simp [owner?, List.lookup_cons, hi, beq_false_of_ne hi]
    rw [IsFree, howner]
    split
    · next hi =>
      subst hi
      simp [IsFree, ho, eq_comm]
    · next hi => simp [IsFree, hi]
  | some first =>
    -- the name owns the identifier already, and the scope stays as it is
    obtain rfl : first = name := h first ho
    refine ⟨s, by simp, fun i n => ?_⟩
    refine ⟨fun hfree => ⟨hfree, fun hi => ?_⟩, And.left⟩
    subst hi
    exact (hfree first ho).symm

theorem claim_eq_error {s : Scope} {identifier name : String} (h : ¬ s.IsFree identifier name) :
    ∃ c, s.claim identifier name = .error c := by
  unfold claim
  cases ho : s.owner? identifier with
  | none => simp [IsFree, ho] at h
  | some first =>
    have hne : first ≠ name := by simpa [IsFree, ho] using h
    exact ⟨_, if_neg hne⟩

end Scope

/-! ### Entries -/

/-- The entry of a relation. -/
def Relation.symbol (r : Relation) : RelationSymbol := ⟨r.name, sanitize r.name, r.rule.category⟩

/-- What the declarations of a type of the given name are named after. -/
def stemOf (name : String) : String := pascalCase (sanitize name)

/-- What the declarations of a type are named after. -/
def TypeDefinition.stem (t : TypeDefinition) : String := stemOf t.name

/-- The entry of a type. -/
def TypeDefinition.symbol (t : TypeDefinition) : TypeSymbol :=
  ⟨t.name, sanitize t.name, t.stem, t.relations.map Relation.symbol⟩

/-- No relation collides with one before it if the scope leaves their identifiers to them and no two
names need the same one. -/
theorem relationSymbols_snd_eq_none {scope : Scope} {rs : List Relation} :
    (relationSymbols scope rs).2 = none ↔
      (∀ r ∈ rs, scope.IsFree (sanitize r.name) r.name) ∧
        ∀ r ∈ rs, ∀ r' ∈ rs, sanitize r.name = sanitize r'.name → r.name = r'.name := by
  induction rs generalizing scope with
  | nil => simp [relationSymbols]
  | cons r rs ih =>
    rw [relationSymbols, Scope.assign]
    by_cases hfree : scope.IsFree (sanitize r.name) r.name
    · obtain ⟨scope', hclaim, hfree'⟩ := Scope.claim_eq_ok hfree
      simp only [hclaim, Except.map, ih, hfree', List.mem_cons]
      grind
    · obtain ⟨c, hclaim⟩ := Scope.claim_eq_error hfree
      simp only [hclaim, Except.map, List.mem_cons]
      grind

theorem relationSymbols_fst {scope : Scope} {rs : List Relation}
    (h : (relationSymbols scope rs).2 = none) :
    (relationSymbols scope rs).1 = rs.map Relation.symbol := by
  induction rs generalizing scope with
  | nil => rfl
  | cons r rs ih =>
    rw [relationSymbols, Scope.assign] at h ⊢
    cases hclaim : scope.claim (sanitize r.name) r.name with
    | error c => simp [hclaim, Except.map] at h
    | ok scope' =>
      simp only [hclaim, Except.map] at h ⊢
      rw [ih h, List.map_cons, Relation.symbol]

/-- No two relations of the type need the same identifier. -/
def TypeDefinition.RelationsAreApart (t : TypeDefinition) : Prop :=
  ∀ r ∈ t.relations, ∀ r' ∈ t.relations, sanitize r.name = sanitize r'.name → r.name = r'.name

theorem TypeDefinition.relationsAreApart_iff {t : TypeDefinition} :
    t.RelationsAreApart ↔ (relationSymbols (relationScope t.name) t.relations).2 = none := by
  simp [relationSymbols_snd_eq_none, relationScope, RelationsAreApart]

theorem TypeDefinition.stem_congr {t t' : TypeDefinition} (h : sanitize t.name = sanitize t'.name) :
    t.stem = t'.stem := by
  rw [stem, stem, stemOf, stemOf, h]

/-- No type collides with one before it, and none of its relations collide, if the scopes leave
their identifiers and stems to the types and no two names need the same one. -/
theorem typeSymbols_snd_eq_none {identifiers stems : Scope} {ts : List TypeDefinition} :
    (typeSymbols identifiers stems ts).2 = none ↔
      (∀ t ∈ ts, identifiers.IsFree (sanitize t.name) t.name ∧ stems.IsFree t.stem t.name) ∧
        (∀ t ∈ ts, ∀ t' ∈ ts, t.stem = t'.stem → t.name = t'.name) ∧
          ∀ t ∈ ts, t.RelationsAreApart := by
  induction ts generalizing identifiers stems with
  | nil => simp [typeSymbols]
  | cons t ts ih =>
    rw [typeSymbols, Scope.assign]
    by_cases hfree : identifiers.IsFree (sanitize t.name) t.name
    · obtain ⟨identifiers', hclaim, hfree'⟩ := Scope.claim_eq_ok hfree
      by_cases hstem : stems.IsFree t.stem t.name
      · -- both scopes take the type, and its relations decide
        obtain ⟨stems', hclaim', hstem'⟩ := Scope.claim_eq_ok hstem
        have hcongr : ∀ t' : TypeDefinition, sanitize t'.name = sanitize t.name →
            t'.stem = t.stem := fun t' => TypeDefinition.stem_congr
        have hapart := TypeDefinition.relationsAreApart_iff (t := t)
        rw [TypeDefinition.stem, stemOf] at hclaim'
        simp only [hclaim, Except.map, hclaim', List.mem_cons]
        rcases hr : relationSymbols (relationScope t.name) t.relations with ⟨relations, _ | c⟩
        · simp only [hr, ih, hfree', hstem'] at hapart ⊢
          grind
        · simp only [hr] at hapart ⊢
          grind
      · obtain ⟨c, hclaim'⟩ := Scope.claim_eq_error hstem
        rw [TypeDefinition.stem, stemOf] at hclaim'
        simp only [hclaim, Except.map, hclaim', List.mem_cons]
        grind
    · obtain ⟨c, hclaim⟩ := Scope.claim_eq_error hfree
      simp only [hclaim, Except.map, List.mem_cons]
      grind

theorem typeSymbols_fst {identifiers stems : Scope} {ts : List TypeDefinition}
    (h : (typeSymbols identifiers stems ts).2 = none) :
    (typeSymbols identifiers stems ts).1 = ts.map TypeDefinition.symbol := by
  induction ts generalizing identifiers stems with
  | nil => rfl
  | cons t ts ih =>
    rw [typeSymbols, Scope.assign] at h ⊢
    cases hclaim : identifiers.claim (sanitize t.name) t.name with
    | error c => simp [hclaim, Except.map] at h
    | ok identifiers' =>
      cases hclaim' : stems.claim (pascalCase (sanitize t.name)) t.name with
      | error c => simp [hclaim, hclaim', Except.map] at h
      | ok stems' =>
        have hfst := @relationSymbols_fst (relationScope t.name) t.relations
        rcases hr : relationSymbols (relationScope t.name) t.relations with ⟨relations, _ | c⟩
        · simp only [hclaim, hclaim', Except.map, hr] at h hfst ⊢
          rw [ih h, hfst trivial, List.map_cons, TypeDefinition.symbol, TypeDefinition.stem, stemOf]
        · simp [hclaim, hclaim', Except.map, hr] at h

/-! ### Tables -/

@[simp] theorem TypeDefinition.relationNames_symbol (t : TypeDefinition) :
    t.symbol.relationNames = t.relations.map (·.name) := by
  rw [TypeSymbol.relationNames, symbol, List.map_map]
  rfl

/-- No two names of one place need the same identifier. -/
structure Model.NamesAreApart (m : Model) : Prop where
  types : ∀ t ∈ m.types, ∀ t' ∈ m.types, t.stem = t'.stem → t.name = t'.name
  relations : ∀ t ∈ m.types, t.RelationsAreApart

/-- The table that has an entry for every definition of the model. -/
def Model.table (m : Model) : SymbolTable :=
  ⟨m.id, m.schemaVersion, m.types.map TypeDefinition.symbol, m.conditions.map (·.name)⟩

theorem Model.symbols_snd_eq_none {m : Model} : m.symbols.2 = none ↔ m.NamesAreApart := by
  rw [Model.symbols, typeSymbols_snd_eq_none]
  simp only [Scope.isFree_empty, and_self, implies_true, true_and]
  exact ⟨fun ⟨ht, hr⟩ => ⟨ht, hr⟩, fun ⟨ht, hr⟩ => ⟨ht, hr⟩⟩

/-- **The table of a model is built, and has an entry for every definition, if and only if names do
not collide.** -/
theorem SymbolTable.build_eq_ok {m : Model} {table : SymbolTable} :
    build m = .ok table ↔ table = m.table ∧ m.NamesAreApart := by
  have hsymbols : m.symbols.2 = none → m.symbols.1 = m.types.map TypeDefinition.symbol :=
    typeSymbols_fst
  rw [← Model.symbols_snd_eq_none, build]
  rcases hm : m.symbols with ⟨types, _ | c⟩
  · rw [hm] at hsymbols
    simp only [Except.ok.injEq, and_true, ← hsymbols rfl, Model.table]
    exact eq_comm
  · simp

end Relata
