import Relata.Settings.KeyPath

/-!
# Values put under paths

Tables are merged by putting the entries of one into the other, one after the other. What an entry
makes of a member depends on that member alone, so a member is followed through a merge by itself.

What is there at first is seldom seen in what comes out. A table that is put into a plain value
takes its place, but an empty table leaves the value as it is: the outcome is that of the entries
alone, or the value if they say nothing (`Covers`). Two tables are merged member by member, unless
an entry puts something in the place of the whole table (`CoversMembers`).

## Main definitions

* `Assignment`, `Table.assignments` — the entries of a table as values under paths.
* `Loose.assignPart` — what an entry makes of a member.
* `Covers`, `CoversMembers` — entries put into a value, and the same entries alone.
* `Assignment.replaces` — an entry that leaves nothing of a table.

## Main results

* `Loose.get?_assignIn` — **an entry changes one member**, and sees no other.
* `covers_foldPart` — entries win over a plain value, or say nothing.
* `coversMembers_foldPart`, `foldPart_eq_of_replaces` — entries win over a table member by member,
  or as a whole.
-/

namespace Relata

/-! ### Members -/

theorem Table.lookup_put (members : Table) (name other : String) (v : Loose) :
    (members.put name v).lookup other = if other = name then some v else members.lookup other := by
  induction members with
  | nil =>
    by_cases h : other = name
    · simp [put, h]
    · simp [put, h, List.lookup_cons, beq_false_of_ne h]
  | cons m members ih =>
    obtain ⟨here, w⟩ := m
    by_cases hhere : here = name
    · subst hhere
      by_cases h : other = here
      · simp [put, h]
      · simp [put, h, List.lookup_cons, beq_false_of_ne h]
    · rw [put, if_neg hhere, List.lookup_cons, List.lookup_cons, ih]
      by_cases h : other = here
      · subst h
        simp [hhere]
      · simp [beq_false_of_ne h]

theorem Table.mem_put_self (table : Table) (name : String) (v : Loose) :
    (name, v) ∈ Table.put table name v := by
  induction table with
  | nil => exact List.mem_cons_self
  | cons m table ih =>
    obtain ⟨here, w⟩ := m
    rw [put]
    split
    · exact List.mem_cons_self
    · exact List.mem_cons_of_mem _ ih

theorem Table.mem_put_of_ne {table : Table} {name : String} (v : Loose) {m : String × Loose}
    (h : m ∈ table) (hne : m.1 ≠ name) : m ∈ Table.put table name v := by
  induction table with
  | nil => contradiction
  | cons m' table ih =>
    obtain ⟨here, w⟩ := m'
    rw [put]
    rcases List.mem_cons.mp h with rfl | h
    · rw [if_neg hne]
      exact List.mem_cons_self
    · split
      · exact List.mem_cons_of_mem _ h
      · exact List.mem_cons_of_mem _ (ih h)

theorem Table.eq_or_mem_of_mem_put {table : Table} {name : String} {v : Loose} {m : String × Loose}
    (h : m ∈ Table.put table name v) : m = (name, v) ∨ m ∈ table := by
  induction table with
  | nil => exact Or.inl (List.mem_singleton.mp h)
  | cons m' table ih =>
    obtain ⟨here, w⟩ := m'
    rw [put] at h
    split at h
    · exact (List.mem_cons.mp h).imp_right (List.mem_cons_of_mem _)
    · rcases List.mem_cons.mp h with rfl | h
      · exact Or.inr List.mem_cons_self
      · exact (ih h).imp_right (List.mem_cons_of_mem _)

namespace Loose

/-- Whether a value is a table. -/
def isTable : Loose → Bool
  | table .. => true
  | _ => false

@[simp] theorem isTable_put (v : Loose) (name : String) (w : Loose) : (v.put name w).isTable = true := by
  cases v <;> rfl

theorem get?_put (v : Loose) (name other : String) (w : Loose) :
    (v.put name w).get? other = if other = name then some w else v.get? other := by
  cases v with
  | table origin members => exact Table.lookup_put members name other w
  | atom origin value => exact Table.lookup_put [] name other w
  | list origin items => exact Table.lookup_put [] name other w

/-- What a value at the end of steps makes of a member; `old` is what the member is. -/
def assignPart (old : Option Loose) (steps : List PathStep) (v : Loose) : Loose :=
  match steps, v with
  | [], table _ members => assignAll members (old.getD (table none []))
  | [], v => v
  | step :: steps, v => assignIn (old.getD nothing) v (step :: steps)

/-- A value under a path is put into the member that the path names. -/
theorem assignIn_member (target : Loose) (name : String) (steps : List PathStep) (v : Loose) :
    assignIn target v (.member name :: steps) =
      target.put (Text.lowered name) (assignPart (target.get? (Text.lowered name)) steps v) := by
  cases steps with
  | nil =>
    rw [assignIn]
    cases v with
    | table origin members => rw [assign, assignPart]
    | atom origin value => rw [assign, assignPart] <;> nofun
    | list origin items => rw [assign, assignPart] <;> nofun
  | cons step steps =>
    rw [assignIn, assignPart]
    nofun

/-- **An entry changes one member**, and sees no other. -/
theorem get?_assignIn (target : Loose) (name other : String) (steps : List PathStep) (v : Loose) :
    (assignIn target v (.member name :: steps)).get? other =
      if Text.lowered name = other then some (assignPart (target.get? other) steps v)
      else target.get? other := by
  rw [assignIn_member, get?_put]
  by_cases h : Text.lowered name = other
  · rw [if_pos h.symm, if_pos h, h]
  · rw [if_neg (Ne.symm h), if_neg h]

end Loose

/-! ### Entries -/

/-- A value under a path that starts with the name of a member. -/
structure Assignment where
  name : String
  steps : List PathStep
  value : Loose

namespace Assignment

/-- The member that is changed. -/
def member (a : Assignment) : String := Text.lowered a.name

/-- Puts the value into a table. -/
def run (a : Assignment) (target : Loose) : Loose :=
  Loose.assignIn target a.value (.member a.name :: a.steps)

/-- Puts values into a table, one after the other. -/
def runAll (as : List Assignment) (target : Loose) : Loose :=
  as.foldl (fun target a => a.run target) target

/-- What values make of a member. -/
def foldPart (name : String) (as : List Assignment) (old : Option Loose) : Option Loose :=
  as.foldl (fun old a =>
    if a.member = name then some (Loose.assignPart old a.steps a.value) else old) old

end Assignment

/-- The entries of a table as values under paths. -/
def Table.assignments (table : Table) : List Assignment :=
  table.map fun (key, v) => ⟨(KeyPath.parse key).name, (KeyPath.parse key).steps, v⟩

/-- The members of a table as values under their names. -/
def Table.plainly (table : Table) : List Assignment := table.map fun (name, v) => ⟨name, [], v⟩

namespace Assignment

variable {as : List Assignment} {name : String} {target : Loose}

theorem run_isTable (a : Assignment) (target : Loose) : (a.run target).isTable = true := by
  rw [run, Loose.assignIn_member, Loose.isTable_put]

theorem runAll_isTable (h : target.isTable = true) : (runAll as target).isTable = true := by
  induction as generalizing target with
  | nil => exact h
  | cons a as ih => exact ih (a.run_isTable target)

theorem get?_run (a : Assignment) (target : Loose) (name : String) :
    (a.run target).get? name =
      if a.member = name then some (Loose.assignPart (target.get? name) a.steps a.value)
      else target.get? name :=
  Loose.get?_assignIn target a.name name a.steps a.value

theorem foldPart_cons (name : String) (a : Assignment) (as : List Assignment) (old : Option Loose) :
    foldPart name (a :: as) old = foldPart name as
      (if a.member = name then some (Loose.assignPart old a.steps a.value) else old) :=
  rfl

/-- A member is followed by itself. -/
theorem get?_runAll (as : List Assignment) (target : Loose) (name : String) :
    (runAll as target).get? name = foldPart name as (target.get? name) := by
  induction as generalizing target with
  | nil => rfl
  | cons a as ih =>
    rw [foldPart_cons, ← get?_run]
    exact ih (a.run target)

end Assignment

namespace Loose

theorem assignAll_eq_runAll (members : Table) (target : Loose) :
    assignAll members target = Assignment.runAll members.plainly target := by
  induction members generalizing target with
  | nil => rw [assignAll]; rfl
  | cons m members ih =>
    obtain ⟨name, v⟩ := m
    rw [assignAll, ih]
    rfl

end Loose

/-! ### Plain values -/

/-- A value that says nothing where a table is put: none at all, or an empty table. -/
def Loose.isVoid : Option Loose → Bool
  | none | some (.table _ []) => true
  | _ => false

theorem Loose.isVoid_put (v : Loose) (name : String) (w : Loose) :
    isVoid (some (v.put name w)) = false := by
  have hput : ∀ members : Table, ∃ m rest, Table.put members name w = m :: rest := by
    intro members
    cases members with
    | nil => exact ⟨_, _, rfl⟩
    | cons m members =>
      obtain ⟨here, x⟩ := m
      by_cases h : here = name
      · exact ⟨(name, w), members, by rw [Table.put, if_pos h]⟩
      · exact ⟨(here, x), Table.put members name w, by rw [Table.put, if_neg h]⟩
  cases v with
  | table origin members =>
    obtain ⟨m, rest, h⟩ := hput members
    show isVoid (some (table origin (Table.put members name w))) = false
    rw [h]
    rfl
  | atom origin a => rfl
  | list origin items => rfl

theorem Assignment.isVoid_run (a : Assignment) (target : Loose) :
    Loose.isVoid (some (a.run target)) = false := by
  rw [run, Loose.assignIn_member]
  exact Loose.isVoid_put _ _ _

theorem Assignment.isVoid_runAll {as : List Assignment} {target : Loose}
    (h : Loose.isVoid (some target) = false ∨ as ≠ []) :
    Loose.isVoid (some (runAll as target)) = false := by
  induction as generalizing target with
  | nil => exact h.resolve_right fun hne => hne rfl
  | cons a as ih => exact ih (Or.inl (a.isVoid_run target))

namespace Loose

/-- What comes out is no empty table, unless it was one and an empty table is put into it. -/
theorem isVoid_assignPart {old : Option Loose} {steps : List PathStep} {v : Loose}
    (h : isVoid old = false ∨ steps ≠ [] ∨ isVoid (some v) = false) :
    isVoid (some (assignPart old steps v)) = false := by
  -- behind a step stands a list, or a table that holds the member
  cases steps with
  | cons step steps =>
    rw [assignPart]
    cases step with
    | member name =>
      rw [assignIn_member]
      exact isVoid_put _ _ _
    | place n =>
      rw [assignIn]
      rfl
  | nil =>
    cases v with
    | atom origin a => rfl
    | list origin items => rfl
    | table origin members =>
      rw [assignPart, assignAll_eq_runAll]
      refine Assignment.isVoid_runAll ?_
      rcases h with hold | hsteps | hv
      · cases old with
        | none => contradiction
        | some w => exact Or.inl hold
      · contradiction
      · right
        rintro hnil
        rw [Table.plainly, List.map_eq_nil_iff] at hnil
        rw [hnil] at hv
        contradiction

/-- A value is put at the end of steps into a plain value as into an empty table. -/
theorem assignIn_plain (origin : Option String) (a : Atom) (v : Loose) (step : PathStep)
    (steps : List PathStep) :
    assignIn (atom origin a) v (step :: steps) = assignIn (table none []) v (step :: steps) := by
  cases step with
  | member name =>
    rw [assignIn_member, assignIn_member]
    rfl
  | place n =>
    rw [assignIn, assignIn]
    rfl

/-- What is put into a plain value comes out as it is put into an empty table, unless it is one. -/
theorem assignPart_plain {origin : Option String} {a : Atom} {steps : List PathStep} {v : Loose}
    (h : steps ≠ [] ∨ isVoid (some v) = false) :
    assignPart (some (atom origin a)) steps v = assignPart (some (table none [])) steps v := by
  cases steps with
  | cons step steps =>
    rw [assignPart, assignPart]
    exact assignIn_plain origin a v step steps
  | nil =>
    cases v with
    | atom origin a => rfl
    | list origin items => rfl
    | table origin members =>
      cases members with
      | nil => simp [isVoid] at h
      | cons m members =>
        rw [assignPart, assignPart, assignAll_eq_runAll, assignAll_eq_runAll]
        show Assignment.runAll _ (Assignment.run _ _) = Assignment.runAll _ (Assignment.run _ _)
        rw [Assignment.run, Assignment.run]
        exact congrArg _ (assignIn_plain _ _ _ _ _)

/-- Where nothing is, a value is put as into an empty table. -/
theorem assignPart_none (steps : List PathStep) (v : Loose) :
    assignPart none steps v = assignPart (some (table none [])) steps v := by
  cases steps with
  | cons step steps =>
    rw [assignPart, assignPart]
    exact assignIn_plain none .null v step steps
  | nil => cases v <;> rfl

end Loose

/-- `res` is what entries make of the plain value `base`, and `own` is what they are by themselves.
They say nothing, or they win. -/
inductive Covers (base : Option Loose) : Option Loose → Option Loose → Prop
  | none : Covers base none base
  | empty : Covers base (some (.table none [])) base
  | wins {v : Loose} : Loose.isVoid (some v) = false → Covers base (some v) (some v)

section Covering

variable {base own res : Option Loose} {origin : Option String} {a : Atom}

/-- One more entry is put into a plain value, or wins. -/
theorem covers_assignPart (h : Covers (some (.atom origin a)) own res) (steps : List PathStep)
    (v : Loose) : Covers (some (.atom origin a)) (some (Loose.assignPart own steps v))
      (some (Loose.assignPart res steps v)) := by
  have hplain : Covers (some (.atom origin a))
      (some (Loose.assignPart (some (.table none [])) steps v))
      (some (Loose.assignPart (some (.atom origin a)) steps v)) := by
    by_cases hv : steps ≠ [] ∨ Loose.isVoid (some v) = false
    · rw [Loose.assignPart_plain hv]
      exact .wins (Loose.isVoid_assignPart (Or.inr hv))
    · obtain ⟨hsteps, hv⟩ := not_or.mp hv
      obtain rfl := Decidable.not_not.mp hsteps
      cases v with
      | table origin' members =>
        cases members with
        | nil => exact .empty
        | cons m members => contradiction
      | _ => contradiction
  cases h with
  | none =>
    rw [Loose.assignPart_none]
    exact hplain
  | empty => exact hplain
  | wins hv => exact .wins (Loose.isVoid_assignPart (Or.inl hv))

/-- **Entries win over a plain value**, or say nothing. -/
theorem covers_foldPart (name : String) (as : List Assignment)
    (h : Covers (some (.atom origin a)) own res) :
    Covers (some (.atom origin a)) (Assignment.foldPart name as own)
      (Assignment.foldPart name as res) := by
  induction as generalizing own res with
  | nil => exact h
  | cons x as ih =>
    rw [Assignment.foldPart_cons, Assignment.foldPart_cons]
    refine ih ?_
    by_cases hx : x.member = name
    · rw [if_pos hx, if_pos hx]
      exact covers_assignPart h x.steps x.value
    · rwa [if_neg hx, if_neg hx]

end Covering

/-! ### Tables -/

namespace Assignment

/-- Whether a value leaves nothing of a table that it is put into: it is none itself, or it is put
at a place of a list. -/
def replaces (a : Assignment) : Bool :=
  match a.steps with
  | [] => !a.value.isTable
  | .place _ :: _ => true
  | .member _ :: _ => false

/-- What is put into the members of a table that a value is put into. -/
def below (a : Assignment) : List Assignment :=
  match a.steps with
  | [] => a.value.members.plainly
  | .place _ :: _ => []
  | .member name :: steps => [⟨name, steps, a.value⟩]

/-- What does not replace a table is put into its members. -/
theorem assignPart_eq_runAll {a : Assignment} (h : a.replaces = false) (old : Option Loose) :
    Loose.assignPart old a.steps a.value = runAll a.below (old.getD (.table none [])) := by
  have hnone : Loose.assignPart old a.steps a.value =
      Loose.assignPart (some (old.getD (.table none []))) a.steps a.value := by
    cases old with
    | none => exact Loose.assignPart_none a.steps a.value
    | some w => rfl
  rw [hnone]
  obtain ⟨name, steps, v⟩ := a
  cases steps with
  | nil =>
    cases v with
    | table origin members => exact Loose.assignAll_eq_runAll members _
    | _ => contradiction
  | cons step steps =>
    cases step with
    | member name' => rfl
    | place n => contradiction

/-- What does not replace a table leaves one. -/
theorem assignPart_isTable {a : Assignment} (h : a.replaces = false) {old : Option Loose}
    (hold : old.all Loose.isTable = true) :
    (Loose.assignPart old a.steps a.value).isTable = true := by
  rw [assignPart_eq_runAll h]
  refine runAll_isTable ?_
  cases old with
  | none => rfl
  | some w => exact hold

/-- What replaces a table comes out as it is put into any table, or where nothing is. -/
theorem assignPart_eq_of_replaces {a : Assignment} (h : a.replaces = true) {old old' : Option Loose}
    (hold : old.all Loose.isTable = true) (hold' : old'.all Loose.isTable = true) :
    Loose.assignPart old a.steps a.value = Loose.assignPart old' a.steps a.value := by
  obtain ⟨name, steps, v⟩ := a
  cases steps with
  | nil =>
    cases v with
    | table origin members => contradiction
    | _ => rfl
  | cons step steps =>
    cases step with
    | member name' => contradiction
    | place n =>
      -- neither has items
      have hplace : ∀ w : Option Loose, w.all Loose.isTable = true →
          Loose.assignPart w (.place n :: steps) v =
            Loose.assignPart (some (.table none [])) (.place n :: steps) v := by
        intro w hw
        cases w with
        | none => exact Loose.assignPart_none _ v
        | some t =>
          cases t with
          | table origin members =>
            simp only [Loose.assignPart, Option.getD_some]
            rw [Loose.assignIn, Loose.assignIn]
            rfl
          | _ => contradiction
      rw [hplace old hold, hplace old' hold']

end Assignment

/-- `res` is what entries make of the table `base`, and `own` is what they are by themselves: the
plain members of `base` are each covered. -/
structure CoversMembers (base : Loose) (own res : Option Loose) : Prop where
  own_isTable : own.all Loose.isTable = true
  res_isTable : ∃ t, res = some t ∧ t.isTable = true
  member : ∀ name origin a, base.get? name = some (.atom origin a) →
    Covers (base.get? name) (own.bind (·.get? name)) (res.bind (·.get? name))

section Tables

variable {base : Loose} {own res : Option Loose} {name : String} {as : List Assignment}

/-- One more entry is put into the members. -/
theorem coversMembers_assignPart (h : CoversMembers base own res) {a : Assignment}
    (ha : a.replaces = false) :
    CoversMembers base (some (Loose.assignPart own a.steps a.value))
      (some (Loose.assignPart res a.steps a.value)) := by
  obtain ⟨hown, ⟨t, rfl, ht⟩, hmember⟩ := h
  refine ⟨Assignment.assignPart_isTable ha hown,
    ⟨_, rfl, Assignment.assignPart_isTable ha ht⟩, ?_⟩
  intro member origin x hx
  have hget : (own.getD (.table none [])).get? member = own.bind (·.get? member) := by
    cases own <;> rfl
  have hcovers := hmember member origin x hx
  rw [Option.bind_some, Option.bind_some, Assignment.assignPart_eq_runAll ha,
    Assignment.assignPart_eq_runAll ha, Option.getD_some, Assignment.get?_runAll,
    Assignment.get?_runAll, hget]
  rw [hx] at hcovers ⊢
  exact covers_foldPart member a.below hcovers

/-- **Entries win over a table member by member**, if none of them replaces it. -/
theorem coversMembers_foldPart (h : CoversMembers base own res)
    (has : ∀ a ∈ as, a.member = name → a.replaces = false) :
    CoversMembers base (Assignment.foldPart name as own) (Assignment.foldPart name as res) := by
  induction as generalizing own res with
  | nil => exact h
  | cons x as ih =>
    have hrest : ∀ a ∈ as, a.member = name → a.replaces = false :=
      fun a ha => has a (List.mem_cons_of_mem x ha)
    rw [Assignment.foldPart_cons, Assignment.foldPart_cons]
    refine ih ?_ hrest
    by_cases hx : x.member = name
    · rw [if_pos hx, if_pos hx]
      exact coversMembers_assignPart h (has x List.mem_cons_self hx)
    · rwa [if_neg hx, if_neg hx]

/-- **Entries of which one replaces the table win as a whole.** -/
theorem foldPart_eq_of_replaces (hown : own.all Loose.isTable = true)
    (hres : res.all Loose.isTable = true)
    (has : ∃ a ∈ as, a.member = name ∧ a.replaces = true) :
    Assignment.foldPart name as own = Assignment.foldPart name as res := by
  induction as generalizing own res with
  | nil =>
    obtain ⟨a, ha, -⟩ := has
    contradiction
  | cons x as ih =>
    rw [Assignment.foldPart_cons, Assignment.foldPart_cons]
    by_cases hx : x.member = name ∧ x.replaces = true
    · rw [if_pos hx.1, if_pos hx.1, Assignment.assignPart_eq_of_replaces hx.2 hown hres]
    · obtain ⟨a, ha, hmember, hreplaces⟩ := has
      have hrest : ∃ a ∈ as, a.member = name ∧ a.replaces = true := by
        rcases List.mem_cons.mp ha with rfl | ha
        · exact absurd ⟨hmember, hreplaces⟩ hx
        · exact ⟨a, ha, hmember, hreplaces⟩
      by_cases hname : x.member = name
      · have hkeeps : x.replaces = false := by
          rw [Bool.eq_false_iff]
          exact fun htrue => hx ⟨hname, htrue⟩
        rw [if_pos hname, if_pos hname]
        exact ih (Assignment.assignPart_isTable hkeeps hown)
          (Assignment.assignPart_isTable hkeeps hres) hrest
      · rw [if_neg hname, if_neg hname]
        exact ih hown hres hrest

end Tables

end Relata
