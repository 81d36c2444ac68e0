import Relata.Proofs.Files
import Relata.Proofs.Settings.Variables

/-!
# Settings in layers

Each setting is taken from one source: from the file, if the file says something about it, else from
its variable, else from the defaults. The sources are merged as tables and read as one, so this
holds setting by setting and not source by source: a file and a variable can give one setting of the
log each. Only a file that puts something else in the place of the table of the log speaks for both.

## Main definitions

* `Table.value?`, `Table.Mentions` — what a file says about a setting.
* `Table.ReplacesLog` — a file with something else in the place of the table of the log.
* `SettingKey.Settles` — which source a setting is taken from.
* `Table.IsPlain` — a mapping of names.

## Main results

* `SettingKey.find_file` — a file over what was there, setting by setting.
* `Table.IsPlain.value?_eq_some` — what a mapping of names says of a setting is the value under its
  name.
* `Settings.settles_of_load` — **each setting is taken from the last source that mentions it.**
-/

namespace Relata

/-! ### A file over the variables -/

/-- Whether an entry puts something else in the place of the table of the log. -/
def Table.ReplacesLog (table : Table) : Prop :=
  ∃ x ∈ table.assignments, x.member = "logging" ∧ x.replaces = true

section File

variable {base log : Loose} (table : Table)

theorem get?_logging_runAll (target : Loose) :
    (Assignment.runAll table.assignments target).get? "logging" =
      Assignment.foldPart "logging" table.assignments (target.get? "logging") :=
  Assignment.get?_runAll table.assignments target "logging"

variable {table}

/-- The settings of the log are covered one by one, unless they are replaced. -/
theorem coversMembers_log (hlog : base.get? "logging" = some log) (htable : log.isTable = true)
    (hkeeps : ¬ table.ReplacesLog) :
    CoversMembers log
      ((Assignment.runAll table.assignments (.table none [])).get? "logging")
      ((Assignment.runAll table.assignments base).get? "logging") := by
  have hstart : CoversMembers log none (some log) :=
    ⟨rfl, ⟨log, rfl, htable⟩, fun _ _ _ _ => .none⟩
  rw [get?_logging_runAll, get?_logging_runAll, hlog]
  refine coversMembers_foldPart hstart fun x hx hname => ?_
  rw [Bool.eq_false_iff]
  exact fun htrue => hkeeps ⟨x, hx, hname, htrue⟩

/-- They are not taken from elsewhere if they are replaced. -/
theorem get?_logging_of_replacesLog (hlog : base.get? "logging" = some log)
    (htable : log.isTable = true) (hreplaces : table.ReplacesLog) :
    (Assignment.runAll table.assignments base).get? "logging" =
      (Assignment.runAll table.assignments (.table none [])).get? "logging" := by
  have hall : (some log).all Loose.isTable = true := htable
  rw [get?_logging_runAll, get?_logging_runAll, hlog]
  exact foldPart_eq_of_replaces hall Option.all_none hreplaces

end File

/-- **A file wins over what was there**, setting by setting, unless it replaces the settings of the
log as a whole. -/
theorem SettingKey.find_file {base log : Loose} {table : Table}
    (hlog : base.get? "logging" = some log) (htable : log.isTable = true) (key : SettingKey)
    {origin : Option String} {x : Atom} (hbase : key.find base = some (.atom origin x)) :
    (key.member = "logging" ∧ table.ReplacesLog ∧
      key.find (Assignment.runAll table.assignments base) =
        key.find (Assignment.runAll table.assignments (.table none []))) ∨
    ¬ (key.member = "logging" ∧ table.ReplacesLog) ∧
      Covers (key.find base) (key.find (Assignment.runAll table.assignments (.table none [])))
        (key.find (Assignment.runAll table.assignments base)) := by
  by_cases hmember : key.member = "logging"
  · obtain ⟨name, n, hpart⟩ := exists_part?_of_member hmember
    rw [find_of_part? hpart, hlog, Option.bind_some, Loose.part?_of_isTable htable] at hbase
    rw [find_of_part? hpart, find_of_part? hpart, find_of_part? hpart]
    by_cases hreplaces : table.ReplacesLog
    · rw [get?_logging_of_replacesLog hlog htable hreplaces]
      exact Or.inl ⟨hmember, hreplaces, rfl⟩
    · obtain ⟨hown, ⟨t, hres, ht⟩, hmembers⟩ := coversMembers_log hlog htable hreplaces
      have hcovered := hmembers name origin x hbase
      refine Or.inr ⟨fun h => hreplaces h.2, ?_⟩
      rw [hres] at hcovered ⊢
      rw [hlog, Option.bind_some, Loose.part?_of_isTable htable, Loose.bind_part?_of_all hown,
        Option.bind_some, Loose.part?_of_isTable ht]
      exact hcovered
  · have hpart : key.part? = none := by
      cases hpart : key.part? with
      | none => rfl
      | some part => exact absurd (member_of_part? hpart) hmember
    rw [find_of_part?_none hpart] at hbase
    rw [find_of_part?_none hpart, find_of_part?_none hpart, find_of_part?_none hpart,
      Assignment.get?_runAll, Assignment.get?_runAll, hbase]
    exact Or.inr ⟨fun h => hmember h.1, covers_foldPart key.member table.assignments .none⟩

/-! ### Which source a setting is taken from -/

/-- What a file says about a setting, if it is read alone. An empty mapping says nothing. -/
def Table.value? (table : Table) (key : SettingKey) : Option Loose :=
  (key.find (Settings.merged [table])).filter fun v => !Loose.isVoid (some v)

/-- A file mentions a setting if it gives a value, or something in the place of the mapping of the
log that the setting belongs to. -/
def Table.Mentions (table : Table) (key : SettingKey) : Prop :=
  (table.value? key).isSome = true ∨ key.member = "logging" ∧ table.ReplacesLog

/-- `x` is taken from the last source that mentions a setting. -/
inductive SettingKey.Settles (table : Table) (a : SettingKey → Option String) (key : SettingKey) :
    key.Value → Prop
  | file {v : Loose} {x : key.Value} : table.value? key = some v → v.isNull = false →
      key.read v = .ok x → Settles table a key x
  | environment {text : String} {x : key.Value} : ¬ table.Mentions key → a key = some text →
      key.read (variableValue text) = .ok x → Settles table a key x
  /-- A value that is null hides the variable. -/
  | usual : (∀ v, table.value? key = some v → v.isNull = true) →
      table.Mentions key ∨ a key = none → Settles table a key (key.get Settings.default)

/-! ### Settling -/

namespace SettingKey

variable {env : Environment} {a : SettingKey → Option String} {table : Table} {key : SettingKey}

theorem value?_eq_some {v : Loose} : table.value? key = some v ↔
    key.find (Settings.merged [table]) = some v ∧ Loose.isVoid (some v) = false := by
  rw [Table.value?, Option.filter_eq_some_iff, Bool.not_eq_true']

theorem value?_eq_none (h : Loose.isVoid (key.find (Settings.merged [table])) = true) :
    table.value? key = none := by
  rw [Option.eq_none_iff_forall_ne_some]
  intro v hv
  obtain ⟨hfind, hne⟩ := value?_eq_some.mp hv
  rw [hfind, hne] at h
  contradiction

/-- Without a file, each setting is found. -/
theorem exists_find_environment (henv : env.Assigns a) (key : SettingKey) : ∃ origin x,
    key.find (Settings.merged [Settings.default.toTable, environmentTable env]) =
      some (.atom origin x) := by
  obtain ⟨hnone, hsome⟩ := (Settings.find_environment henv).2 key
  cases hkey : a key with
  | some text => exact ⟨_, _, hsome text hkey⟩
  | none =>
    obtain ⟨origin, x, hdefault, -⟩ := key.find_default
    exact ⟨origin, x, (hnone hkey).trans hdefault⟩

/-- What is found in the merged sources: what is in the file, what was there, or nothing that can be
read. -/
theorem find_merged (henv : env.Assigns a) (table : Table) (key : SettingKey) :
    let base := Settings.merged [Settings.default.toTable, environmentTable env]
    let found := key.find (Settings.merged [Settings.default.toTable, environmentTable env, table])
    (∃ v, table.value? key = some v ∧ found = some v) ∨
      (¬ table.Mentions key ∧ found = key.find base) ∨
      (table.Mentions key ∧ table.value? key = none ∧ Loose.isVoid found = true) := by
  intro base found
  obtain ⟨⟨log, hlog, htable⟩, -⟩ := Settings.find_environment henv
  obtain ⟨origin, x, hbase⟩ := exists_find_environment henv key
  have hown : Settings.merged [table] = Assignment.runAll table.assignments (.table none []) :=
    Settings.merged_append [] table
  have hfound : found = key.find (Assignment.runAll table.assignments base) :=
    congrArg key.find (Settings.merged_append [Settings.default.toTable, environmentTable env] table)
  rcases find_file hlog htable key hbase with ⟨hmember, hreplaces, hsame⟩ | ⟨hkeeps, hcovers⟩
  · rw [hfound, hsame, ← hown]
    -- something replaces the settings of the log: what is left is what the file says
    have hmentions : table.Mentions key := Or.inr ⟨hmember, hreplaces⟩
    cases h : Loose.isVoid (key.find (Settings.merged [table])) with
    | true => exact Or.inr (Or.inr ⟨hmentions, value?_eq_none h, rfl⟩)
    | false =>
      cases hv : key.find (Settings.merged [table]) with
      | none => rw [hv] at h; contradiction
      | some v =>
        rw [hv] at h
        exact Or.inl ⟨v, value?_eq_some.mpr ⟨hv, h⟩, rfl⟩
  · -- otherwise what the file says stands over what was there
    have hsilent : table.value? key = none → ¬ table.Mentions key := by
      rintro hnone (hsome | hlog)
      · rw [hnone] at hsome
        contradiction
      · exact hkeeps hlog
    rw [hfound]
    rw [← hown] at hcovers
    generalize hv : key.find (Settings.merged [table]) = own at hcovers
    generalize key.find (Assignment.runAll table.assignments base) = res at hcovers
    cases hcovers with
    | none => exact Or.inr (Or.inl ⟨hsilent (value?_eq_none (by rw [hv]; rfl)), rfl⟩)
    | empty => exact Or.inr (Or.inl ⟨hsilent (value?_eq_none (by rw [hv]; rfl)), rfl⟩)
    | wins hne => exact Or.inl ⟨_, value?_eq_some.mpr ⟨hv, hne⟩, rfl⟩

/-- **A setting is taken from the last source that mentions it.** -/
theorem settles_of_takes (henv : env.Assigns a) {x : key.Value} (htakes : key.Takes (key.find
    (Settings.merged [Settings.default.toTable, environmentTable env, table])) x) :
    key.Settles table a x := by
  rcases find_merged henv table key with
    ⟨v, hv, hfound⟩ | ⟨hsilent, hfound⟩ | ⟨hmentions, hnone, hvoid⟩
  · rw [hfound] at htakes
    cases hnull : v.isNull with
    | false => exact .file hv hnull htakes
    | true =>
      obtain rfl := eq_default_of_isNull hnull htakes
      refine .usual (fun w hw => ?_) (Or.inl (Or.inl (by rw [hv]; rfl)))
      rw [hv] at hw
      rwa [← Option.some.inj hw]
  · rw [hfound] at htakes
    obtain ⟨hnone, hsome⟩ := (Settings.find_environment henv).2 key
    cases hkey : a key with
    | some text =>
      rw [hsome text hkey] at htakes
      exact .environment hsilent hkey htakes
    | none =>
      obtain ⟨origin, atom, hfind, hread⟩ := key.find_default
      rw [hnone hkey, hfind] at htakes
      obtain rfl := Except.ok.inj (hread.symm.trans htakes)
      refine .usual (fun v hv => ?_) (Or.inr hkey)
      exact absurd (Or.inl (by rw [hv]; rfl)) hsilent
  · cases hfound : key.find
        (Settings.merged [Settings.default.toTable, environmentTable env, table]) with
    | none =>
      rw [hfound] at htakes
      obtain rfl := htakes
      exact .usual (fun v hv => by rw [hnone] at hv; contradiction) (Or.inl hmentions)
    | some v =>
      -- an empty table in the place of the settings of the log cannot be read
      rw [hfound] at htakes hvoid
      cases v with
      | table origin members => exact absurd htakes (key.read_table_ne_ok origin members x)
      | _ => contradiction

end SettingKey

/-- A file that mentions no setting changes none. -/
theorem Settings.ofTable_merged_of_silent {env : Environment} {a : SettingKey → Option String}
    (henv : env.Assigns a) {table : Table} (hsilent : ∀ key, ¬ table.Mentions key) :
    ofTable (merged [Settings.default.toTable, environmentTable env, table]) =
      ofTable (merged [Settings.default.toTable, environmentTable env]) := by
  obtain ⟨⟨log, hlog, htable⟩, -⟩ := find_environment henv
  have hkeeps : ¬ table.ReplacesLog := fun h => hsilent .level (Or.inr ⟨rfl, h⟩)
  refine ofTable_congr (fun key => ?_) ?_ ⟨log, hlog, htable⟩
  · rcases SettingKey.find_merged henv table key with ⟨v, hv, -⟩ | ⟨-, hfound⟩ | ⟨hmentions, -, -⟩
    · exact absurd (Or.inl (by rw [hv]; rfl)) (hsilent key)
    · exact hfound
    · exact absurd hmentions (hsilent key)
  · rw [show merged [Settings.default.toTable, environmentTable env, table] = _ from
      merged_append [Settings.default.toTable, environmentTable env] table]
    exact (coversMembers_log hlog htable hkeeps).res_isTable

/-! ### Mappings of names -/

/-- Whether a text is a name in lower case. -/
def KeyPath.IsName (text : String) : Prop :=
  (∀ c ∈ text.toList, isNameChar c = true) ∧ Text.lowered text = text

/-- A mapping of names, each of which comes once; so is the mapping of the log. -/
structure Table.IsPlain (table : Table) : Prop where
  name : ∀ m ∈ table, KeyPath.IsName m.1
  nodup : (table.map Prod.fst).Nodup
  logName : ∀ origin members, ("logging", .table origin members) ∈ table →
    ∀ m ∈ members, KeyPath.IsName m.1
  logNodup : ∀ origin members, ("logging", .table origin members) ∈ table →
    (members.map Prod.fst).Nodup

theorem KeyPath.parse_of_isName {text : String} (h : IsName text) : parse text = ⟨text, []⟩ := by
  have htake : text.toList.takeWhile isNameChar = text.toList := List.takeWhile_eq_self_iff.mpr h.1
  simp only [parse, htake, List.drop_length, steps?]
  cases hcs : text.toList with
  | nil => rfl
  | cons c cs =>
    dsimp only
    rw [← hcs, String.ofList_toList]

section Plain

variable {table : Table} {name : String}

/-- Entries for other members change nothing. -/
theorem foldPart_of_forall_ne {as : List Assignment} (old : Option Loose)
    (h : ∀ x ∈ as, x.member ≠ name) : Assignment.foldPart name as old = old := by
  induction as with
  | nil => rfl
  | cons x as ih =>
    rw [Assignment.foldPart_cons, if_neg (h x List.mem_cons_self)]
    exact ih fun y hy => h y (List.mem_cons_of_mem x hy)

/-- Where each name comes once, a member is what is put under its name. -/
theorem foldPart_plainly (hname : ∀ m ∈ table, Text.lowered m.1 = m.1)
    (hnodup : (table.map Prod.fst).Nodup) :
    Assignment.foldPart name (Table.plainly table) none =
      (table.lookup name).map (Loose.assignPart none []) := by
  induction table with
  | nil => rfl
  | cons m table ih =>
    obtain ⟨here, v⟩ := m
    obtain ⟨hfresh, hnodup⟩ := List.nodup_cons.mp hnodup
    have hhere : Text.lowered here = here := hname (here, v) List.mem_cons_self
    have hrest : ∀ m ∈ table, Text.lowered m.1 = m.1 :=
      fun m hm => hname m (List.mem_cons_of_mem _ hm)
    rw [Table.plainly, List.map_cons, Assignment.foldPart_cons, List.lookup_cons]
    change Assignment.foldPart name (Table.plainly table)
      (if Text.lowered here = name then some (Loose.assignPart none [] v) else none) = _
    by_cases h : here = name
    · subst h
      rw [if_pos hhere, beq_self_eq_true]
      refine foldPart_of_forall_ne _ fun x hx heq => ?_
      obtain ⟨m, hm, rfl⟩ := List.mem_map.mp hx
      have hsame : m.1 = here := (hrest m hm).symm.trans heq
      exact hfresh (List.mem_map.mpr ⟨m, hm, hsame⟩)
    · have hmember : Text.lowered here ≠ name := hhere.symm ▸ h
      rw [if_neg hmember, beq_false_of_ne (Ne.symm h)]
      exact ih hrest hnodup

/-- The entries of a mapping of names are its members. -/
theorem Table.IsPlain.assignments_eq (h : table.IsPlain) :
    table.assignments = Table.plainly table := by
  refine List.map_congr_left fun m hm => ?_
  obtain ⟨here, v⟩ := m
  dsimp only
  rw [KeyPath.parse_of_isName (h.name (here, v) hm)]

theorem map_assignPart_eq_some {o : Option Loose} {v : Loose} (hv : v.isTable = false) :
    o.map (Loose.assignPart none []) = some v ↔ o = some v := by
  have htable : ∀ origin members,
      (Loose.assignPart none [] (.table origin members)).isTable = true := by
    intro origin members
    rw [Loose.assignPart, Loose.assignAll_eq_runAll]
    exact Assignment.runAll_isTable rfl
  cases o with
  | none => simp
  | some w =>
    rw [Option.map_some, Option.some.injEq, Option.some.injEq]
    cases w with
    | table origin members =>
      constructor
      · rintro rfl
        exact absurd (htable origin members) (by rw [hv]; decide)
      · rintro rfl
        contradiction
    | atom origin a => rfl
    | list origin items => rfl

/-- A mapping of names replaces the settings of the log if it gives anything but a mapping for them. -/
theorem Table.IsPlain.replacesLog_iff (h : table.IsPlain) :
    table.ReplacesLog ↔ ∃ v, ("logging", v) ∈ table ∧ v.isTable = false := by
  rw [Table.ReplacesLog, h.assignments_eq]
  constructor
  · rintro ⟨x, hx, hmember, hreplaces⟩
    obtain ⟨m, hm, rfl⟩ := List.mem_map.mp hx
    have hname : m.1 = "logging" := (h.name m hm).2.symm.trans hmember
    exact ⟨m.2, hname ▸ hm, by simpa [Assignment.replaces] using hreplaces⟩
  · rintro ⟨v, hmem, hv⟩
    exact ⟨_, List.mem_map_of_mem hmem, (h.name _ hmem).2, by simp [Assignment.replaces, hv]⟩

/-- **A mapping of names says of a setting what its member says.** -/
theorem Table.IsPlain.value?_eq_some (h : table.IsPlain) (key : SettingKey) {v : Loose}
    (hv : v.isTable = false) :
    table.value? key = some v ↔ key.find (.table none table) = some v := by
  have hvoid : Loose.isVoid (some v) = false := by
    cases v with
    | table origin members => contradiction
    | _ => rfl
  have hget : ∀ name, (Settings.merged [table]).get? name =
      (table.lookup name).map (Loose.assignPart none []) := by
    intro name
    rw [show Settings.merged [table] = Assignment.runAll table.assignments (.table none []) from
      Settings.merged_append [] table, Assignment.get?_runAll, h.assignments_eq]
    exact foldPart_plainly (fun m hm => (h.name m hm).2) h.nodup
  rw [SettingKey.value?_eq_some, and_iff_left hvoid]
  cases hpart : key.part? with
  | none =>
    rw [SettingKey.find_of_part?_none hpart, SettingKey.find_of_part?_none hpart, hget]
    exact map_assignPart_eq_some hv
  | some part =>
    obtain ⟨name, n⟩ := part
    rw [SettingKey.find_of_part? hpart, SettingKey.find_of_part? hpart, hget]
    show _ ↔ (table.lookup "logging").bind _ = _
    cases hlog : table.lookup "logging" with
    | none => rfl
    | some log =>
      cases log with
      | atom origin a => rfl
      | list origin items => rfl
      | table origin members =>
        -- the mapping for the log is read like the mapping around it
        have hmem : ("logging", .table origin members) ∈ table := by
          obtain ⟨before, behind, heq, -⟩ := List.lookup_eq_some_iff.mp hlog
          rw [heq]
          exact List.mem_append_right before List.mem_cons_self
        have hmembers : (Loose.assignPart none [] (.table origin members)).part? name n =
            (members.lookup name).map (Loose.assignPart none []) := by
          rw [Loose.assignPart, Loose.assignAll_eq_runAll, Option.getD_none,
            Loose.part?_of_isTable (Assignment.runAll_isTable rfl), Assignment.get?_runAll]
          exact foldPart_plainly (fun m hm => (h.logName origin members hmem m hm).2)
            (h.logNodup origin members hmem)
        rw [Option.map_some, Option.bind_some, hmembers]
        exact map_assignPart_eq_some hv

end Plain

/-! ### Settings that are loaded -/

/-- The table of the one file in a tree. -/
theorem fileTable_holding (content : String) : fileTable (.holding content) "m" =
    (yamlTable "m" (Text.decoded (Text.withoutMark content.toUTF8.toList))).mapError .load := by
  have hexist : (Files.holding content).exist "m" = true := by
    rw [Files.exist, Files.locate_holding]
    rfl
  have hfile : settingsFile? (.holding content) "m" = some "m" := by
    rw [settingsFile?, Files.isFile, Files.read_holding]
    rfl
  have hrelative : (Files.holding content).relative "m" = "m" := by
    rw [Files.relative, Files.startOf_holding, Files.parts_m]
    rfl
  rw [fileTable, hexist, hfile]
  dsimp only
  rw [Files.read_holding, hrelative]
  rfl

/-- What the sources give if the file and the variables are as given. -/
theorem Settings.load_holding {content : String} {env : Environment} {s : Settings}
    (h : (do
      let table ← (yamlTable "m"
        (Text.decoded (Text.withoutMark content.toUTF8.toList))).mapError SettingsError.load
      ofSources [environmentTable env, table]).toOption = some s) :
    load (.holding content) env "m" = .ok s := by
  rw [load, fileTable_holding]
  exact toOption_eq_some.mp h

/-- **Each setting is taken from the last source that mentions it**, whatever the other settings are
taken from. A file that mentions none leaves the settings to the environment. What a mapping of
names says of a setting is the value under its name. -/
theorem Settings.settles_of_load {fs : Files} {env : Environment} {path : String} {s : Settings}
    {a : SettingKey → Option String} (henv : env.Assigns a) (h : load fs env path = .ok s) :
    ∃ table, fileTable fs path = .ok table ∧
      (∀ key : SettingKey, key.Settles table a (key.get s)) ∧
      ((∀ key, ¬ table.Mentions key) → ofEnvironment env = .ok s) ∧
      (table.IsPlain →
        (∀ (key : SettingKey) (v : Loose), v.isTable = false →
          (table.value? key = some v ↔ key.find (.table none table) = some v)) ∧
        (table.ReplacesLog ↔ ∃ v, ("logging", v) ∈ table ∧ v.isTable = false)) := by
  obtain ⟨table, htable, h⟩ := bind_eq_ok.mp h
  refine ⟨table, htable, fun key => ?_, fun hsilent => ?_, fun hplain => ?_⟩
  · obtain ⟨s', hs, h⟩ := bind_eq_ok.mp h
    obtain ⟨-, -, h⟩ := bind_eq_ok.mp h
    obtain rfl := Except.ok.inj h
    exact SettingKey.settles_of_takes henv (takes_of_ofTable (mapError_eq_ok.mp hs) key)
  · rw [ofSources, ofTable_merged_of_silent henv hsilent] at h
    exact h
  · exact ⟨fun key _ => hplain.value?_eq_some key, hplain.replacesLog_iff⟩

/-- A file and three variables, of which each gives something. -/
theorem Settings.settles_meetingSources :
    let fs := Files.holding "model_file: m\noutput: a.ts\nlogging:\n  level: debug\n"
    let env := [("FGA_OUTPUT", "b.ts"), ("FGA_LOGGING__JSON", "on"), ("HOME", "/"),
      ("FGA_REQUEST_TIMEOUT_SECS", "60")]
    let a : SettingKey → Option String
      | .output => some "b.ts"
      | .json => some "on"
      | .requestTimeout => some "60"
      | _ => none
    let s : Settings := ⟨none, none, none, none, some "m", "a.ts", 60, ⟨"debug", true⟩⟩
    Environment.Assigns env a ∧ load fs env "m" = .ok s ∧
      ∃ table, fileTable fs "m" = .ok table ∧
        (∀ key : SettingKey, key.Settles table a (key.get s)) := by
  intro fs env a s
  have henv : Environment.Assigns env a := by
    constructor
    · intro name text hmem hpath
      simp only [env, List.mem_cons, Prod.mk.injEq, List.not_mem_nil, or_false] at hmem
      rcases hmem with ⟨rfl, rfl⟩ | ⟨rfl, rfl⟩ | ⟨rfl, rfl⟩ | ⟨rfl, rfl⟩
      · exact ⟨.output, rfl, rfl⟩
      · exact ⟨.json, rfl, rfl⟩
      · exact absurd (by decide +kernel) hpath
      · exact ⟨.requestTimeout, rfl, rfl⟩
    · intro key text htext
      cases key <;> simp_all [a, env, SettingKey.variableName]
  have hload : load fs env "m" = .ok s := load_holding (by decide +kernel)
  obtain ⟨table, htable, hsettles, -⟩ := settles_of_load henv hload
  exact ⟨henv, hload, table, htable, hsettles⟩

/-- A list for the log hides the variable of a setting that it leaves out: the file says nothing of
the setting, the variable says `true`, and it is false. -/
theorem Settings.hides_of_listedLog :
    let fs := Files.holding "model_file: m\nlogging: [debug]\n"
    let env := [("FGA_LOGGING__JSON", "true")]
    let a : SettingKey → Option String
      | .json => some "true"
      | _ => none
    let s : Settings :=
      ⟨none, none, none, none, some "m", "fga-types.generated.ts", 30, ⟨"debug", false⟩⟩
    Environment.Assigns env a ∧ load fs env "m" = .ok s ∧
      (∃ table, fileTable fs "m" = .ok table ∧ (table.value? .level).isSome = true ∧
        table.value? .json = none) ∧
      SettingKey.json.read (variableValue "true") = .ok true ∧ SettingKey.json.get s = false := by
  intro fs env a s
  refine ⟨⟨?_, ?_⟩, load_holding (by decide +kernel), ?_, rfl, rfl⟩
  · intro name text hmem _
    obtain ⟨rfl, rfl⟩ := Prod.mk.inj (List.mem_singleton.mp hmem)
    exact ⟨.json, rfl, rfl⟩
  · intro key text htext
    cases key <;> simp_all [a, env, SettingKey.variableName]
  · have hsays : (fileTable fs "m").toOption.any (fun table =>
        (table.value? .level).isSome && (table.value? .json).isNone) = true := by
      rw [fileTable_holding]
      decide +kernel
    cases htable : fileTable fs "m" with
    | error e =>
      rw [htable] at hsays
      contradiction
    | ok table =>
      rw [htable] at hsays
      obtain ⟨hlevel, hjson⟩ := (Bool.and_eq_true _ _).mp hsays
      exact ⟨table, rfl, hlevel, Option.isNone_iff_eq_none.mp hjson⟩

end Relata
