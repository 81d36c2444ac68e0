import Relata.Proofs.Result
import Relata.Proofs.Settings.Assignment
import Relata.Settings.Sources

/-!
# Settings one by one

The settings of a run are read from one table, each from its member or from its part of the settings
of the log. So what is true of a table setting by setting is true of the settings in it.

## Main definitions

* `SettingKey` — the settings, with their types, members and variables.
* `SettingKey.find` — what a table says about a setting.
* `SettingKey.Takes` — a setting is read from what is found, or is the default.

## Main results

* `Settings.takes_of_ofTable` — **settings are read one by one.**
* `Settings.ofTable_congr` — and nothing else counts.
-/

namespace Relata

/-! ### Settings by name -/

/-- The settings that a source can give. -/
inductive SettingKey
  | storeId
  | apiUrl
  | modelId
  | apiToken
  | modelFile
  | output
  | requestTimeout
  | level
  | json
  deriving DecidableEq

namespace SettingKey

/-- The type of a setting. -/
def Value : SettingKey → Type
  | output | level => String
  | requestTimeout => Nat
  | json => Bool
  | _ => Option String

/-- A setting of a run. -/
def get (s : Settings) : (key : SettingKey) → key.Value
  | storeId => s.storeId
  | apiUrl => s.apiUrl
  | modelId => s.modelId
  | apiToken => s.apiToken
  | modelFile => s.modelFile
  | output => s.output
  | requestTimeout => s.requestTimeout
  | level => s.logging.level
  | json => s.logging.json

/-- Reads a setting from what a source gives. -/
def read : (key : SettingKey) → Loose → Except TypeFault key.Value
  | storeId | apiUrl | modelId | apiToken | modelFile => Settings.optionalText
  | output | level => Loose.asText
  | requestTimeout => Loose.asCount
  | json => Loose.asBoolean

/-- The variable of a setting. -/
def variableName : SettingKey → String
  | storeId => "FGA_STORE_ID"
  | apiUrl => "FGA_API_URL"
  | modelId => "FGA_AUTHORIZATION_MODEL_ID"
  | apiToken => "FGA_API_TOKEN"
  | modelFile => "FGA_MODEL_FILE"
  | output => "FGA_OUTPUT"
  | requestTimeout => "FGA_REQUEST_TIMEOUT_SECS"
  | level => "FGA_LOGGING__LEVEL"
  | json => "FGA_LOGGING__JSON"

/-- The member of a table that holds a setting. -/
def member : SettingKey → String
  | storeId => "store_id"
  | apiUrl => "api_url"
  | modelId => "authorization_model_id"
  | apiToken => "api_token"
  | modelFile => "model_file"
  | output => "output"
  | requestTimeout => "request_timeout_secs"
  | level | json => "logging"

/-- The name and the place of a setting among those of the log. -/
def part? : SettingKey → Option (String × Nat)
  | level => some ("level", 0)
  | json => some ("json", 1)
  | _ => none

/-- The path of a setting, as it is written. -/
def path (key : SettingKey) : String :=
  key.member ++ (key.part?.map fun (name, _) => "." ++ name).getD ""

/-- The steps from the member that holds a setting. -/
def steps (key : SettingKey) : List PathStep :=
  (key.part?.map fun (name, _) => PathStep.member name).toList

end SettingKey

/-- A part of the settings of the log, which are given by name or in order. -/
def Loose.part? (name : String) (n : Nat) : Loose → Option Loose
  | table _ members => members.lookup name
  | list _ items => items[n]?
  | atom .. => none

theorem Loose.part?_of_isTable {v : Loose} (h : v.isTable = true) (name : String) (n : Nat) :
    v.part? name n = v.get? name := by
  cases v with
  | table origin members => rfl
  | _ => contradiction

theorem Loose.bind_part?_of_all {v : Option Loose} (h : v.all isTable = true) (name : String)
    (n : Nat) : v.bind (Loose.part? name n) = v.bind (·.get? name) := by
  cases v with
  | none => rfl
  | some w => exact part?_of_isTable h name n

/-- What a value says about a setting. -/
def SettingKey.find (key : SettingKey) (v : Loose) : Option Loose :=
  match key.part? with
  | none => v.get? key.member
  | some (name, n) => (v.get? key.member).bind (Loose.part? name n)

namespace SettingKey

variable {key : SettingKey} {name : String} {n : Nat}

theorem find_of_part?_none (h : key.part? = none) (v : Loose) : key.find v = v.get? key.member := by
  rw [find, h]

theorem member_of_part? (h : key.part? = some (name, n)) : key.member = "logging" := by
  cases key <;> first | rfl | exact absurd h (Option.some_ne_none _).symm

theorem find_of_part? (h : key.part? = some (name, n)) (v : Loose) :
    key.find v = (v.get? "logging").bind (Loose.part? name n) := by
  rw [find, h, member_of_part? h]

end SettingKey

/-! ### Reading settings one by one -/

/-- Whether a value is null. -/
def Loose.isNull : Loose → Bool
  | atom _ .null => true
  | _ => false

/-- `x` is what is read from what is found, or the fallback if nothing is. -/
def IsRead {α : Type} (read : Loose → Except TypeFault α) (fallback : α) (found : Option Loose)
    (x : α) : Prop :=
  match found with
  | none => x = fallback
  | some v => read v = .ok x

/-- `x` is the setting that is read from what is found; the default if nothing is. -/
def SettingKey.Takes (key : SettingKey) (found : Option Loose) (x : key.Value) : Prop :=
  IsRead key.read (key.get Settings.default) found x

section Read

variable {α : Type} {fallback x : α} {read : Loose → Except TypeFault α}

theorem Settings.isRead_of_setting {table : Loose} {name : String}
    (h : setting table name fallback read = .ok x) : IsRead read fallback (table.get? name) x := by
  rw [setting] at h
  cases hv : table.get? name with
  | none =>
    rw [hv] at h
    exact (Except.ok.inj h).symm
  | some v =>
    rw [hv] at h
    exact mapError_eq_ok.mp h

theorem Settings.isRead_of_logSetting {key : String} {v : Option Loose}
    (h : logSetting key v fallback read = .ok x) : IsRead read fallback v x := by
  cases v with
  | none => exact (Except.ok.inj h).symm
  | some v => exact mapError_eq_ok.mp h

end Read

/-- The settings of the log are read one by one, by name or in order. -/
theorem Settings.takes_of_logSettings {v : Loose} {log : LogSettings}
    (h : logSettings v = .ok log) :
    SettingKey.level.Takes (v.part? "level" 0) log.level ∧
      SettingKey.json.Takes (v.part? "json" 1) log.json := by
  cases v with
  | atom origin a => contradiction
  | table origin members =>
    obtain ⟨level, hlevel, h⟩ := bind_eq_ok.mp h
    obtain ⟨json, hjson, h⟩ := bind_eq_ok.mp h
    obtain rfl := Except.ok.inj h
    exact ⟨isRead_of_logSetting hlevel, isRead_of_logSetting hjson⟩
  | list origin items =>
    obtain ⟨level, hlevel, h⟩ := bind_eq_ok.mp h
    obtain ⟨json, hjson, h⟩ := bind_eq_ok.mp h
    obtain rfl := Except.ok.inj h
    exact ⟨isRead_of_logSetting hlevel, isRead_of_logSetting hjson⟩

/-- **Settings are read one by one.** -/
theorem Settings.takes_of_ofTable {table : Loose} {s : Settings} (h : ofTable table = .ok s)
    (key : SettingKey) : key.Takes (key.find table) (key.get s) := by
  obtain ⟨storeId, hstoreId, h⟩ := bind_eq_ok.mp h
  obtain ⟨apiUrl, hapiUrl, h⟩ := bind_eq_ok.mp h
  obtain ⟨modelId, hmodelId, h⟩ := bind_eq_ok.mp h
  obtain ⟨apiToken, hapiToken, h⟩ := bind_eq_ok.mp h
  obtain ⟨modelFile, hmodelFile, h⟩ := bind_eq_ok.mp h
  obtain ⟨output, houtput, h⟩ := bind_eq_ok.mp h
  obtain ⟨requestTimeout, hrequestTimeout, h⟩ := bind_eq_ok.mp h
  obtain ⟨logging, hlogging, h⟩ := bind_eq_ok.mp h
  obtain rfl := Except.ok.inj h
  -- the settings of the log are read from a table of their own
  have hlog : SettingKey.level.Takes (SettingKey.level.find table) logging.level ∧
      SettingKey.json.Takes (SettingKey.json.find table) logging.json := by
    simp only [SettingKey.find, SettingKey.part?, SettingKey.member]
    cases hv : table.get? "logging" with
    | none =>
      rw [hv] at hlogging
      obtain rfl := Except.ok.inj hlogging
      exact ⟨rfl, rfl⟩
    | some v =>
      rw [hv] at hlogging
      exact takes_of_logSettings hlogging
  cases key with
  | storeId => exact isRead_of_setting hstoreId
  | apiUrl => exact isRead_of_setting hapiUrl
  | modelId => exact isRead_of_setting hmodelId
  | apiToken => exact isRead_of_setting hapiToken
  | modelFile => exact isRead_of_setting hmodelFile
  | output => exact isRead_of_setting houtput
  | requestTimeout => exact isRead_of_setting hrequestTimeout
  | level => exact hlog.1
  | json => exact hlog.2

theorem Settings.setting_congr {α : Type} {v w : Loose} (name : String) (fallback : α)
    (read : Loose → Except TypeFault α) (h : v.get? name = w.get? name) :
    setting v name fallback read = setting w name fallback read := by
  rw [setting, setting, h]

/-- The settings of two tables of the log are the same where the same is found. -/
theorem Settings.logSettings_congr {v w : Loose} (hv : v.isTable = true) (hw : w.isTable = true)
    (hlevel : v.part? "level" 0 = w.part? "level" 0) (hjson : v.part? "json" 1 = w.part? "json" 1) :
    logSettings v = logSettings w := by
  cases v with
  | table origin members =>
    cases w with
    | table origin' members' =>
      have hlevel' : (Loose.table origin members).get? "level" =
        (Loose.table origin' members').get? "level" := hlevel
      have hjson' : (Loose.table origin members).get? "json" =
        (Loose.table origin' members').get? "json" := hjson
      rw [logSettings, logSettings, hlevel', hjson']
    | _ => contradiction
  | _ => contradiction

/-- Settings are the same where the same is found. -/
theorem Settings.ofTable_congr {v w : Loose} (hfind : ∀ key : SettingKey, key.find v = key.find w)
    (hv : ∃ log, v.get? "logging" = some log ∧ log.isTable = true)
    (hw : ∃ log, w.get? "logging" = some log ∧ log.isTable = true) : ofTable v = ofTable w := by
  have hlog : (v.get? "logging").map logSettings = (w.get? "logging").map logSettings := by
    have hlevel : (v.get? "logging").bind (Loose.part? "level" 0) =
      (w.get? "logging").bind (Loose.part? "level" 0) := hfind .level
    have hjson : (v.get? "logging").bind (Loose.part? "json" 1) =
      (w.get? "logging").bind (Loose.part? "json" 1) := hfind .json
    obtain ⟨log, hlog, htable⟩ := hv
    obtain ⟨log', hlog', htable'⟩ := hw
    rw [hlog, hlog', Option.bind_some, Option.bind_some] at hlevel hjson
    rw [hlog, hlog', Option.map_some, Option.map_some,
      logSettings_congr htable htable' hlevel hjson]
  rw [ofTable, ofTable, setting_congr "store_id" _ _ (hfind .storeId),
    setting_congr "api_url" _ _ (hfind .apiUrl),
    setting_congr "authorization_model_id" _ _ (hfind .modelId),
    setting_congr "api_token" _ _ (hfind .apiToken),
    setting_congr "model_file" _ _ (hfind .modelFile), setting_congr "output" _ _ (hfind .output),
    setting_congr "request_timeout_secs" _ _ (hfind .requestTimeout), hlog]

/-- A value that is null leaves a setting at its default, if it can be read at all. -/
theorem SettingKey.eq_default_of_isNull {key : SettingKey} {v : Loose} {x : key.Value}
    (hnull : v.isNull = true) (h : key.read v = .ok x) : x = key.get Settings.default := by
  cases v with
  | atom origin a =>
    cases a with
    | null => cases key <;> first | exact (Except.ok.inj h).symm | contradiction
    | _ => contradiction
  | _ => contradiction

/-- No setting is a table. -/
theorem SettingKey.read_table_ne_ok (key : SettingKey) (origin : Option String) (members : Table)
    (x : key.Value) : key.read (.table origin members) ≠ .ok x := by
  cases key <;> exact nofun

/-! ### Merged sources -/

theorem Settings.merged_append (sources : List Table) (table : Table) :
    merged (sources ++ [table]) = Assignment.runAll table.assignments (merged sources) := by
  rw [merged, List.foldl_append, List.foldl_cons, List.foldl_nil, Assignment.runAll,
    Table.assignments, List.foldl_map]
  rfl

theorem Settings.merged_default :
    merged [Settings.default.toTable] = .table none Settings.default.toTable :=
  rfl

/-- Each setting has a default, which is read as what it is. -/
theorem SettingKey.find_default (key : SettingKey) : ∃ origin a,
    key.find (Settings.merged [Settings.default.toTable]) = some (.atom origin a) ∧
      key.read (.atom origin a) = .ok (key.get Settings.default) := by
  rw [Settings.merged_default]
  cases key <;> exact ⟨_, _, rfl, rfl⟩

end Relata
