import Relata.Proofs.Module.Lines
import Relata.Proofs.SymbolTable

/-!
# Names that collide

Where there is no table, the collision that is reported is one of the model: two names of one place,
the first declared before the second, that need the same identifier. What carries the argument is
that a scope knows only names of the place that were declared so far, each under the identifier it
needs.

## Main definitions

* `Scope.HoldsOnly` — a scope knows only given names, each under the identifier it needs.
* `Collision.IsAmong` — a collision of two names of a list.
* `Model.Collides` — a collision of two names of a model.

## Main results

* `relationSymbols_snd_eq_some`, `typeSymbols_snd_eq_some` — the collision of a run of entries.
* `SymbolTable.build_eq_error` — a collision that is reported is one of the model.
* `Model.table_or_collision` — **a model has its table or a collision, and a module if and only if
  it is valid and has a table.**
-/

namespace Relata

/-! ### Scopes -/

/-- Every name that owns an identifier is one of `names`, and `identifierOf` it is what it owns. -/
def Scope.HoldsOnly (s : Scope) (identifierOf : String → String) (names : List String) : Prop :=
  ∀ identifier, ∀ owner ∈ s.owner? identifier,
    owner ∈ names ∧ identifierOf owner = identifier

/-- Two different names of a list, the first before the second, that need the same identifier. -/
structure Collision.IsAmong (c : Collision) (identifierOf : String → String)
    (names : List String) : Prop where
  ne : c.first ≠ c.second
  inOrder : [c.first, c.second].Sublist names
  first : identifierOf c.first = c.identifier
  second : identifierOf c.second = c.identifier

namespace Scope

variable {s t : Scope} {identifierOf : String → String} {before : List String} {name : String}

theorem holdsOnly_empty (label : String) : (empty label).HoldsOnly identifierOf [] := by
  intro identifier owner h
  simp [empty, owner?] at h

/-- What a claim that succeeds leaves behind. -/
theorem HoldsOnly.claim (h : s.HoldsOnly identifierOf before)
    (ht : s.claim (identifierOf name) name = .ok t) :
    t.label = s.label ∧ t.HoldsOnly identifierOf (before ++ [name]) := by
  unfold Scope.claim at ht
  -- a claim adds an owner, or the name owns its identifier already
  cases ho : s.owner? (identifierOf name) with
  | none =>
    rw [ho] at ht
    obtain rfl : ⟨s.label, (identifierOf name, name) :: s.owners⟩ = t := by simpa using ht
    refine ⟨rfl, ?_⟩
    intro identifier owner hmem
    rw [Option.mem_def, owner?, List.lookup_cons] at hmem
    by_cases hi : identifier = identifierOf name
    · -- the new owner
      obtain rfl : name = owner := by simpa [hi] using hmem
      exact ⟨by simp, hi.symm⟩
    · have hmem : owner ∈ s.owner? identifier := by
        simpa [owner?, beq_false_of_ne hi] using hmem
      obtain ⟨hbefore, hid⟩ := h identifier owner hmem
      exact ⟨List.mem_append_left _ hbefore, hid⟩
  | some first =>
    rw [ho] at ht
    by_cases hf : first = name
    · obtain rfl : s = t := by simpa [hf] using ht
      refine ⟨rfl, ?_⟩
      intro identifier owner hmem
      obtain ⟨hbefore, hid⟩ := h identifier owner hmem
      exact ⟨List.mem_append_left _ hbefore, hid⟩
    · simp [hf] at ht

/-- A claim fails only if a name before owns the identifier. -/
theorem HoldsOnly.isAmong (h : s.HoldsOnly identifierOf before) {c : Collision}
    (hc : s.claim (identifierOf name) name = .error c) (after : List String) :
    c.scope = s.label ∧ c.IsAmong identifierOf (before ++ name :: after) := by
  unfold Scope.claim at hc
  cases ho : s.owner? (identifierOf name) with
  | none =>
    rw [ho] at hc
    simp at hc
  | some first =>
    rw [ho] at hc
    by_cases hf : first = name
    · simp [hf] at hc
    · obtain rfl : ⟨s.label, first, name, identifierOf name⟩ = c := by simpa [hf] using hc
      obtain ⟨hbefore, hid⟩ := h _ first ho
      have hfirst : [first].Sublist before := List.singleton_sublist.mpr hbefore
      have hsecond : [name].Sublist (name :: after) := List.singleton_sublist.mpr (by simp)
      exact ⟨rfl, hf, hfirst.append hsecond, hid, rfl⟩

end Scope

/-! ### Runs of entries -/

/-- The collision of the relations of a type is one of their names. -/
theorem relationSymbols_snd_eq_some {scope : Scope} {rs : List Relation} {before : List String}
    {c : Collision} (hs : scope.HoldsOnly sanitize before)
    (h : (relationSymbols scope rs).2 = some c) :
    c.scope = scope.label ∧ c.IsAmong sanitize (before ++ rs.map (·.name)) := by
  induction rs generalizing scope before with
  | nil => simp [relationSymbols] at h
  | cons r rs ih =>
    rw [relationSymbols, Scope.assign] at h
    rw [List.map_cons]
    cases hclaim : scope.claim (sanitize r.name) r.name with
    | error c' =>
      obtain rfl : c' = c := by simpa [hclaim, Except.map] using h
      exact hs.isAmong hclaim _
    | ok scope' =>
      obtain ⟨hlabel, hs'⟩ := hs.claim hclaim
      have hrest : (relationSymbols scope' rs).2 = some c := by
        simpa [hclaim, Except.map] using h
      obtain ⟨hscope, hamong⟩ := ih hs' hrest
      rw [List.append_assoc, List.singleton_append] at hamong
      exact ⟨hscope.trans hlabel, hamong⟩

/-- A collision of two names of one place of a model, under the label of the place. -/
inductive Model.Collides (m : Model) (c : Collision) : Prop
  /-- Two types need the same identifier. -/
  | types (label : c.scope = "model type names")
      (names : c.IsAmong sanitize (m.types.map (·.name)))
  /-- The declarations of two types need the same stem. -/
  | stems (label : c.scope = "model type declarations")
      (names : c.IsAmong stemOf (m.types.map (·.name)))
  /-- Two relations of one type need the same identifier. -/
  | relations (t : TypeDefinition) (mem : t ∈ m.types)
      (label : c.scope = "relations of type '" ++ t.name ++ "'")
      (names : c.IsAmong sanitize (t.relations.map (·.name)))

/-- The collision of a run of types is one of their names, of their stems, or of the relations of
one of them. -/
theorem typeSymbols_snd_eq_some {identifiers stems : Scope} {ts : List TypeDefinition}
    {before : List String} {c : Collision} (hi : identifiers.HoldsOnly sanitize before)
    (hs : stems.HoldsOnly stemOf before)
    (h : (typeSymbols identifiers stems ts).2 = some c) :
    (c.scope = identifiers.label ∧ c.IsAmong sanitize (before ++ ts.map (·.name))) ∨
      (c.scope = stems.label ∧ c.IsAmong stemOf (before ++ ts.map (·.name))) ∨
        ∃ t ∈ ts, c.scope = (relationScope t.name).label ∧
          c.IsAmong sanitize (t.relations.map (·.name)) := by
  induction ts generalizing identifiers stems before with
  | nil => simp [typeSymbols] at h
  | cons t ts ih =>
    rw [typeSymbols, Scope.assign] at h
    rw [List.map_cons]
    cases hclaim : identifiers.claim (sanitize t.name) t.name with
    | error c' =>
      obtain rfl : c' = c := by simpa [hclaim, Except.map] using h
      exact Or.inl (hi.isAmong hclaim _)
    | ok identifiers' =>
      cases hclaim' : stems.claim (stemOf t.name) t.name with
      | error c' =>
        have hstem : stems.claim (pascalCase (sanitize t.name)) t.name = .error c' := hclaim'
        obtain rfl : c' = c := by simpa [hclaim, Except.map, hstem] using h
        exact Or.inr (Or.inl (hs.isAmong hclaim' _))
      | ok stems' =>
        have hstem : stems.claim (pascalCase (sanitize t.name)) t.name = .ok stems' := hclaim'
        simp only [hclaim, Except.map, hstem] at h
        -- the relations of the type collide, or one of the types behind it does
        rcases hr : relationSymbols (relationScope t.name) t.relations with ⟨relations, _ | c'⟩
        · obtain ⟨hlabel, hi'⟩ := hi.claim hclaim
          obtain ⟨hlabel', hs'⟩ := hs.claim hclaim'
          have hrest : (typeSymbols identifiers' stems' ts).2 = some c := by simpa [hr] using h
          have hcollision := ih hi' hs' hrest
          rw [List.append_assoc, List.singleton_append, hlabel, hlabel'] at hcollision
          rcases hcollision with hc | hc | ⟨t', ht', hc⟩
          · exact Or.inl hc
          · exact Or.inr (Or.inl hc)
          · exact Or.inr (Or.inr ⟨t', List.mem_cons_of_mem t ht', hc⟩)
        · obtain rfl : c' = c := by simpa [hr] using h
          have hc := relationSymbols_snd_eq_some (Scope.holdsOnly_empty _)
            (congrArg Prod.snd hr)
          exact Or.inr (Or.inr ⟨t, List.mem_cons_self, hc⟩)

/-! ### Tables and modules -/

/-- A collision that is reported is one of the model. -/
theorem SymbolTable.build_eq_error {m : Model} {c : Collision} (h : build m = .error c) :
    m.Collides c := by
  have hsymbols : m.symbols.2 = some c := by
    rw [build] at h
    rcases hm : m.symbols with ⟨types, _ | c'⟩
    · simp [hm] at h
    · simpa [hm] using h
  have hcollision := typeSymbols_snd_eq_some (Scope.holdsOnly_empty _) (Scope.holdsOnly_empty _)
    hsymbols
  rw [List.nil_append] at hcollision
  rcases hcollision with ⟨hlabel, hc⟩ | ⟨hlabel, hc⟩ | ⟨t, ht, hlabel, hc⟩
  · exact .types hlabel hc
  · exact .stems hlabel hc
  · exact .relations t ht hlabel hc

/-- A model whose names do not collide has its table. Any other model has a collision, which is
reported. -/
theorem SymbolTable.build_total (m : Model) :
    (m.NamesAreApart ↔ build m = .ok m.table) ∧
      (¬ m.NamesAreApart ↔ ∃ c, build m = .error c ∧ m.Collides c) := by
  have hok : build m = .ok m.table ↔ m.NamesAreApart := by
    rw [build_eq_ok]
    exact and_iff_right rfl
  refine ⟨hok.symm, ?_, ?_⟩
  · intro hapart
    cases hb : build m with
    | ok table => exact absurd (build_eq_ok.mp hb).2 hapart
    | error c => exact ⟨c, rfl, build_eq_error hb⟩
  · rintro ⟨c, hc, -⟩ hapart
    rw [hok.mpr hapart] at hc
    cases hc

/-- Why there is no module: the model is not valid, or it is and its names collide. -/
theorem Model.generateAt_eq_error {m : Model} {t : Instant} {e : GenerationError} :
    m.generateAt t = .error e ↔
      (∃ e', m.validate = .error e' ∧ e = .model e') ∨
        (m.validate = .ok () ∧ ∃ c, SymbolTable.build m = .error c ∧ e = .collision c) := by
  unfold Model.generateAt
  cases hv : m.validate with
  | error e' =>
    change Except.error (GenerationError.model e') = .error e ↔ _
    simp [eq_comm]
  | ok u =>
    cases hb : SymbolTable.build m with
    | error c =>
      change Except.error (GenerationError.collision c) = .error e ↔ _
      simp [eq_comm]
    | ok table =>
      refine iff_of_false (fun h => ?_) ?_
      · cases h
      · simp

/-- **A model has its table or a collision.** The table has an entry for every definition, in the
order of the model; there is one if and only if no two names of one place need the same identifier,
and any collision that is reported is of two such names. There is a module if and only if the model
is valid and has a table, and what is wrong with the model comes before a collision. -/
theorem Model.table_or_collision (m : Model) :
    (m.NamesAreApart ↔ SymbolTable.build m = .ok m.table) ∧
      (¬ m.NamesAreApart ↔ ∃ c, SymbolTable.build m = .error c ∧ m.Collides c) ∧
        ∀ t : Instant,
          ((∃ g, m.generateAt t = .ok g) ↔
            m.validate = .ok () ∧ ∃ table, SymbolTable.build m = .ok table) ∧
          ∀ e, m.generateAt t = .error e ↔
            (∃ e', m.validate = .error e' ∧ e = .model e') ∨
              (m.validate = .ok () ∧ ∃ c, SymbolTable.build m = .error c ∧ e = .collision c) := by
  obtain ⟨htable, hcollision⟩ := SymbolTable.build_total m
  refine ⟨htable, hcollision, fun t => ⟨?_, fun e => generateAt_eq_error⟩⟩
  have hvalid : m.validate = .ok () ↔ m.IsValid := validate_eq_ok.trans problems_eq_nil
  constructor
  · rintro ⟨g, hg⟩
    obtain ⟨hm, hapart, -⟩ := generateAt_eq_ok.mp hg
    exact ⟨hvalid.mpr hm, m.table, htable.mp hapart⟩
  · rintro ⟨hm, table, hb⟩
    exact ⟨_, generateAt_eq_ok.mpr ⟨hvalid.mp hm, (SymbolTable.build_eq_ok.mp hb).2, rfl⟩⟩

end Relata
