import Relata.Proofs.Settings.Key

/-!
# Variables over the defaults

Each variable of a setting gives one entry of the table of the environment, under the path of the
setting. The entries are texts, so they are put in the place of what was there, and no entry changes
what is there of another setting: the two of the log stand side by side in one table.

## Main definitions

* `Environment.Assigns` — what the variables of the settings say.

## Main results

* `Environment.Assigns.mem_assignments` — the entries that variables give.
* `SettingKey.find_run` — **a value that is given to one setting changes no other.**
* `Settings.find_environment` — **variables win over the defaults.**
-/

namespace Relata

/-! ### Variables over the defaults -/

/-- What a variable says. -/
def variableValue (text : String) : Loose := .atom (some environmentOrigin) (.text text)

/-- The variables of the settings say what `a` says. No other variable is one of a setting. -/
structure Environment.Assigns (env : Environment) (a : SettingKey → Option String) : Prop where
  only : ∀ name text, (name, text) ∈ env → settingPath? name ≠ none →
    ∃ key : SettingKey, name = key.variableName ∧ a key = some text
  all : ∀ key text, a key = some text → (key.variableName, text) ∈ env

namespace SettingKey

/-- A value that is given to a setting by its path. -/
def assignment (key : SettingKey) (v : Loose) : Assignment := ⟨key.member, key.steps, v⟩

theorem parse_path (key : SettingKey) : KeyPath.parse key.path = ⟨key.member, key.steps⟩ := by
  cases key <;> rfl

theorem settingPath?_variableName (key : SettingKey) :
    settingPath? key.variableName = some key.path := by
  cases key <;> decide +kernel

theorem lowered_member (key : SettingKey) : Text.lowered key.member = key.member := by
  cases key <;> decide +kernel

theorem path_inj {key key' : SettingKey} (h : key.path = key'.path) : key = key' := by
  cases key <;> cases key' <;> first | rfl | exact absurd h (by decide)

/-- A member outside of the settings of the log holds one setting. -/
theorem eq_of_member_eq {key key' : SettingKey} (hpart : key.part? = none)
    (h : key'.member = key.member) : key' = key := by
  cases key <;> cases key' <;> first | rfl | exact absurd h (by decide) | exact nomatch hpart

/-- The settings of the log have different names. -/
theorem part?_of_member_eq {key key' : SettingKey} {name : String} {n : Nat}
    (hpart : key.part? = some (name, n)) (h : key'.member = key.member) :
    ∃ name' n', key'.part? = some (name', n') ∧ (Text.lowered name' = name ↔ key' = key) := by
  cases key <;> cases key' <;> first
    | exact absurd h (by decide)
    | exact absurd hpart (Option.some_ne_none _).symm
    | obtain ⟨rfl, rfl⟩ := Prod.mk.inj (Option.some.inj hpart)
      exact ⟨_, _, rfl, by decide +kernel⟩

end SettingKey

/-- **A value that is given to one setting changes no other.** -/
theorem SettingKey.find_run (key key' : SettingKey) (origin : Option String) (a : Atom)
    {target log : Loose} (hlog : target.get? "logging" = some log) (htable : log.isTable = true) :
    key.find ((key'.assignment (.atom origin a)).run target) =
      if key' = key then some (.atom origin a) else key.find target := by
  have hget := (key'.assignment (.atom origin a)).get?_run target key.member
  have hsame : (key'.assignment (.atom origin a)).member = key'.member := key'.lowered_member
  rw [hsame] at hget
  by_cases hmember : key'.member = key.member
  · rw [if_pos hmember] at hget
    change _ = some (Loose.assignPart _ key'.steps _) at hget
    cases hpart : key.part? with
    | none =>
      have hkey : key' = key := eq_of_member_eq hpart hmember
      have hsteps : key'.steps = [] := by rw [hkey, steps, hpart]; rfl
      rw [hsteps] at hget
      rw [if_pos hkey, find_of_part?_none hpart, hget]
      rfl
    | some part =>
      obtain ⟨name, n⟩ := part
      obtain ⟨name', n', hpart', hname⟩ := part?_of_member_eq hpart hmember
      have hsteps : key'.steps = [.member name'] := by rw [steps, hpart']; rfl
      rw [hsteps, member_of_part? hpart, hlog] at hget
      rw [find_of_part? hpart, find_of_part? hpart, hget, hlog, Option.bind_some, Option.bind_some,
        Loose.part?_of_isTable htable, Loose.assignPart, Option.getD_some,
        Loose.part?_of_isTable (by rw [Loose.assignIn_member, Loose.isTable_put]),
        Loose.get?_assignIn]
      simp only [hname]
      rfl
  · have hkey : key' ≠ key := fun h => hmember (congrArg member h)
    rw [if_neg hmember] at hget
    rw [if_neg hkey, find, find, hget]

section Environment

variable {env : Environment} {a : SettingKey → Option String}

/-- The table after one more variable. -/
def withVariable (table : Table) (entry : String × String) : Table :=
  match settingPath? entry.1 with
  | some path => Table.put table path (variableValue entry.2)
  | none => table

theorem environmentTable_eq (env : Environment) : environmentTable env = env.foldl withVariable [] :=
  rfl

/-- A variable of a setting, as it is assigned. -/
theorem Environment.Assigns.key_of_mem (h : env.Assigns a) {e : String × String} (he : e ∈ env)
    {path : String} (hpath : settingPath? e.1 = some path) :
    ∃ key : SettingKey, path = key.path ∧ a key = some e.2 := by
  obtain ⟨name, text⟩ := e
  obtain ⟨key, rfl, htext⟩ := h.only name text he (by simp [hpath])
  rw [key.settingPath?_variableName] at hpath
  exact ⟨key, (Option.some.inj hpath).symm, htext⟩

/-- Every entry that variables give is that of a setting with its value. -/
theorem Environment.Assigns.eq_of_mem (h : env.Assigns a) : ∀ m ∈ environmentTable env,
    ∃ key : SettingKey, ∃ text, a key = some text ∧ m = (key.path, variableValue text) := by
  rw [environmentTable_eq]
  refine List.foldlRecOn (motive := fun table => ∀ m ∈ table, ∃ key : SettingKey, ∃ text,
    a key = some text ∧ m = (key.path, variableValue text)) env withVariable nofun ?_
  intro table htable e he m hm
  rw [withVariable] at hm
  split at hm
  · next path hpath =>
    rcases Table.eq_or_mem_of_mem_put hm with rfl | hm
    · obtain ⟨key, rfl, htext⟩ := h.key_of_mem he hpath
      exact ⟨key, e.2, htext, rfl⟩
    · exact htable m hm
  · exact htable m hm

/-- One more variable leaves the entry of a setting as it is. -/
theorem Environment.Assigns.mem_withVariable (h : env.Assigns a) {key : SettingKey} {text : String}
    (hkey : a key = some text) {e : String × String} (he : e ∈ env) {table : Table}
    (hmem : (key.path, variableValue text) ∈ table) :
    (key.path, variableValue text) ∈ withVariable table e := by
  rw [withVariable]
  split
  · next path hpath =>
    obtain ⟨key', rfl, htext⟩ := h.key_of_mem he hpath
    by_cases hsame : key' = key
    · rw [hsame, hkey] at htext
      rw [hsame, ← Option.some.inj htext]
      exact Table.mem_put_self _ _ _
    · exact Table.mem_put_of_ne _ hmem fun heq => hsame (SettingKey.path_inj heq.symm)
  · exact hmem

/-- A variable that is set gives its entry. -/
theorem Environment.Assigns.mem (h : env.Assigns a) {key : SettingKey} {text : String}
    (hkey : a key = some text) : (key.path, variableValue text) ∈ environmentTable env := by
  obtain ⟨before, behind, henv⟩ := List.append_of_mem (h.all key text hkey)
  rw [environmentTable_eq, henv, List.foldl_append, List.foldl_cons]
  refine List.foldlRecOn behind withVariable ?_ fun table hmem e he => ?_
  · rw [withVariable, key.settingPath?_variableName]
    exact Table.mem_put_self _ _ _
  · refine h.mem_withVariable hkey ?_ hmem
    rw [henv]
    exact List.mem_append_right before (List.mem_cons_of_mem _ he)

/-- The entries of variables as values that are given to settings. -/
theorem Environment.Assigns.mem_assignments (h : env.Assigns a) {x : Assignment} :
    x ∈ (environmentTable env).assignments ↔
      ∃ key : SettingKey, ∃ text, a key = some text ∧ x = key.assignment (variableValue text) := by
  rw [Table.assignments, List.mem_map]
  constructor
  · rintro ⟨m, hm, rfl⟩
    obtain ⟨key, text, htext, rfl⟩ := h.eq_of_mem m hm
    refine ⟨key, text, htext, ?_⟩
    dsimp only
    rw [key.parse_path]
    rfl
  · rintro ⟨key, text, htext, rfl⟩
    refine ⟨_, h.mem htext, ?_⟩
    dsimp only
    rw [key.parse_path]
    rfl

end Environment

namespace SettingKey

variable {a : SettingKey → Option String} {as : List Assignment} {target : Loose}

theorem exists_part?_of_member {key : SettingKey} (h : key.member = "logging") :
    ∃ name n, key.part? = some (name, n) := by
  cases key <;> first | exact ⟨_, _, rfl⟩ | exact absurd h (by decide)

/-- The settings of the log stay a table. -/
theorem get?_logging_run (key : SettingKey) (v : Loose)
    (h : ∃ log, target.get? "logging" = some log ∧ log.isTable = true) :
    ∃ log, ((key.assignment v).run target).get? "logging" = some log ∧ log.isTable = true := by
  have hget := (key.assignment v).get?_run target "logging"
  have hsame : (key.assignment v).member = key.member := key.lowered_member
  rw [hsame] at hget
  by_cases hmember : key.member = "logging"
  · obtain ⟨log, hlog, -⟩ := h
    obtain ⟨name, n, hpart⟩ := exists_part?_of_member hmember
    have hsteps : (key.assignment v).steps = [.member name] := by
      rw [assignment, steps, hpart]
      rfl
    rw [if_pos hmember, hsteps] at hget
    refine ⟨_, hget, ?_⟩
    rw [Loose.assignPart, Loose.assignIn_member, Loose.isTable_put]
  · rw [if_neg hmember] at hget
    rw [hget]
    exact h

section Run

variable (has : ∀ x ∈ as, ∃ key : SettingKey, ∃ text, a key = some text ∧
  x = key.assignment (variableValue text))
variable (hlog : ∃ log, target.get? "logging" = some log ∧ log.isTable = true)

include has hlog

theorem isTable_logging_runAll : ∃ log, (Assignment.runAll as target).get? "logging" = some log ∧
    log.isTable = true := by
  induction as generalizing target with
  | nil => exact hlog
  | cons x as ih =>
    obtain ⟨key, text, -, rfl⟩ := has x List.mem_cons_self
    exact ih (fun y hy => has y (List.mem_cons_of_mem _ hy)) (key.get?_logging_run _ hlog)

/-- Variables leave alone a setting that has none, or that has its value already. -/
theorem find_runAll_of_settled {key : SettingKey}
    (hkey : ∀ text, a key = some text → key.find target = some (variableValue text)) :
    key.find (Assignment.runAll as target) = key.find target := by
  induction as generalizing target with
  | nil => rfl
  | cons x as ih =>
    obtain ⟨key', text', htext', rfl⟩ := has x List.mem_cons_self
    have hrun : key.find ((key'.assignment (variableValue text')).run target) =
        key.find target := by
      obtain ⟨log, hlog, htable⟩ := hlog
      refine (find_run key key' _ _ hlog htable).trans ?_
      split
      · next hsame =>
        subst hsame
        exact (hkey text' htext').symm
      · rfl
    rw [← hrun] at hkey ⊢
    exact ih (fun y hy => has y (List.mem_cons_of_mem _ hy)) (key'.get?_logging_run _ hlog) hkey

/-- **Variables win over what was there**, each for its setting. -/
theorem find_runAll_of_mem {key : SettingKey} {text : String} (htext : a key = some text)
    (hmem : key.assignment (variableValue text) ∈ as) :
    key.find (Assignment.runAll as target) = some (variableValue text) := by
  induction as generalizing target with
  | nil => contradiction
  | cons x as ih =>
    have hrest : ∀ y ∈ as, _ := fun y hy => has y (List.mem_cons_of_mem x hy)
    obtain ⟨key', text', -, hx⟩ := has x List.mem_cons_self
    have hlog' := key'.get?_logging_run (variableValue text') hlog
    rw [← hx] at hlog'
    rcases List.mem_cons.mp hmem with rfl | hmem
    · -- from here on the setting has its value
      obtain ⟨log, hlog, htable⟩ := hlog
      have hrun : key.find ((key.assignment (variableValue text)).run target) =
          some (variableValue text) := (find_run key key _ _ hlog htable).trans (if_pos rfl)
      refine (find_runAll_of_settled hrest hlog' fun text' htext' => ?_).trans hrun
      rw [hrun, Option.some.inj (htext.symm.trans htext')]
    · exact ih hrest hlog' hmem

end Run

end SettingKey

/-- **Variables win over the defaults.** -/
theorem Settings.find_environment {env : Environment} {a : SettingKey → Option String}
    (h : env.Assigns a) :
    (∃ log, (merged [Settings.default.toTable, environmentTable env]).get? "logging" = some log ∧
      log.isTable = true) ∧
    ∀ key : SettingKey,
      (a key = none → key.find (merged [Settings.default.toTable, environmentTable env]) =
        key.find (merged [Settings.default.toTable])) ∧
      ∀ text, a key = some text →
        key.find (merged [Settings.default.toTable, environmentTable env]) =
          some (variableValue text) := by
  have hmerged : merged [Settings.default.toTable, environmentTable env] =
      Assignment.runAll (environmentTable env).assignments (merged [Settings.default.toTable]) :=
    merged_append [Settings.default.toTable] (environmentTable env)
  have hdefault : ∃ log, (merged [Settings.default.toTable]).get? "logging" = some log ∧
      log.isTable = true := by
    rw [merged_default]
    exact ⟨.table none _, rfl, rfl⟩
  have has := fun x hx => (h.mem_assignments (x := x)).mp hx
  rw [hmerged]
  refine ⟨SettingKey.isTable_logging_runAll has hdefault, fun key => ⟨fun hnone => ?_, ?_⟩⟩
  · refine SettingKey.find_runAll_of_settled has hdefault fun text htext => ?_
    rw [hnone] at htext
    contradiction
  · intro text htext
    exact SettingKey.find_runAll_of_mem has hdefault htext
      (h.mem_assignments.mpr ⟨key, text, htext, rfl⟩)

end Relata
