import Relata.Event
import Relata.Text.Blank
import Relata.Text.Lowercase

/-!
# Settings

What a run is configured with, and which settings make sense: the model comes from a file or from a
server, and a file wins.

## Main definitions

* `Settings`, `LogSettings` — the settings.
* `ModelSource`, `Settings.modelSource?` — where the model comes from.
* `SettingsProblem`, `Settings.validate` — what makes settings useless.
* `LogFormat` — how events are to be shown.
-/

namespace Relata

/-- Settings of the log. -/
structure LogSettings where
  level : String
  json : Bool
  deriving DecidableEq, Repr, Inhabited

/-- Settings of a run. -/
structure Settings where
  storeId : Option String
  /-- The base address of the server. -/
  apiUrl : Option String
  /-- The model of the store; its latest one if there is none. -/
  modelId : Option String
  apiToken : Option String
  /-- A file with a model, in place of the server. -/
  modelFile : Option String
  /-- The file to generate. -/
  output : String
  requestTimeout : Nat
  logging : LogSettings
  deriving DecidableEq, Repr, Inhabited

/-- The settings of the log where none are given. -/
def LogSettings.default : LogSettings := ⟨"info", false⟩

/-- The settings where none are given. -/
def Settings.default : Settings :=
  ⟨none, none, none, none, none, defaultFileName, 30, LogSettings.default⟩

/-! ### The source of the model -/

/-- Where the model comes from. -/
inductive ModelSource
  | file (path : String)
  | server (apiUrl storeId : String) (modelId : Option String)
  deriving DecidableEq, Repr, Inhabited

/-- A setting without blanks around it; none if nothing is left. -/
def filled? (setting : Option String) : Option String :=
  (setting.map Text.trimmed).filter (· ≠ "")

namespace Settings

/-- Where the model comes from, if the settings say so. -/
def modelSource? (s : Settings) : Option ModelSource :=
  match filled? s.modelFile with
  | some path => some (.file path)
  | none => do return .server (← filled? s.apiUrl) (← filled? s.storeId) (filled? s.modelId)

end Settings

/-! ### Levels -/

/-- The levels, from the least important one. -/
def Level.all : List Level := [.trace, .debug, .info, .warn, .error]

/-- The name of a level in settings. -/
def Level.settingName : Level → String
  | trace => "trace"
  | debug => "debug"
  | info => "info"
  | warn => "warn"
  | error => "error"

/-- The level with a name, in which case does not count. -/
def Level.ofName? (name : String) : Option Level :=
  Level.all.find? fun level => level.settingName = Text.lowered name

/-- The level that a setting stands for. An unknown name stands for the usual level. -/
def Level.ofSetting (name : String) : Level := (Level.ofName? name).getD .info

/-! ### Problems -/

/-- What makes settings useless. -/
inductive SettingsProblem
  /-- Neither a file nor a server is named; says which settings of the server are missing. -/
  | missingSource (storeId apiUrl : Bool)
  | emptyOutput
  | zeroTimeout
  | unknownLevel (level : String)
  deriving DecidableEq, Repr, Inhabited

/-- The wording of a problem. -/
def SettingsProblem.message : SettingsProblem → String
  | missingSource storeId apiUrl =>
    let names := (if storeId then ["store_id (FGA_STORE_ID)"] else []) ++
      (if apiUrl then ["api_url (FGA_API_URL)"] else [])
    "missing required setting(s): " ++ ", ".intercalate names ++
      "; set them or configure model_file"
  | emptyOutput => "output must not be empty"
  | zeroTimeout => "request_timeout_secs must be greater than 0"
  | unknownLevel level =>
    "logging.level must be one of: [" ++
      ", ".intercalate (Level.all.map fun l => Text.quoted l.settingName) ++ "], got: " ++ level

/-- Refuses settings that make no sense. -/
def Settings.validate (s : Settings) : Except SettingsProblem Unit := do
  let noStore := (filled? s.storeId).isNone
  let noUrl := (filled? s.apiUrl).isNone
  if (filled? s.modelFile).isNone && (noStore || noUrl) then throw (.missingSource noStore noUrl)
  if Text.trimmed s.output = "" then throw .emptyOutput
  if s.requestTimeout = 0 then throw .zeroTimeout
  if (Level.ofName? s.logging.level).isNone then throw (.unknownLevel s.logging.level)

/-! ### The log -/

/-- How events are to be shown, and from which level on. -/
structure LogFormat where
  json : Bool
  level : Level
  deriving DecidableEq, Repr, Inhabited

namespace LogFormat

/-- Events as JSON. -/
def asJson : LogFormat := ⟨true, .info⟩

/-- Events as text. -/
def asText : LogFormat := ⟨false, .info⟩

/-- The same format from another level on. -/
def withLevel (f : LogFormat) (level : Level) : LogFormat := { f with level := level }

/-- The format that settings ask for. -/
def ofSettings (s : LogSettings) : LogFormat := ⟨s.json, Level.ofSetting s.level⟩

end LogFormat

end Relata
