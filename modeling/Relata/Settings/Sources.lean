import Relata.Files
import Relata.Settings.Basic
import Relata.Settings.KeyPath
import Relata.Text.Utf8
import Relata.Yaml.Document

/-!
# Where settings come from

Settings have defaults. Variables of the environment win over the defaults, and a file wins over
both. The sources are merged table by table, so that one source can give one setting of the log and
another source the other one.

## Main definitions

* `SettingsError` — why there are no settings.
* `environmentTable`, `fileTable` — what the sources give.
* `merged`, `Settings.ofTable` — the merged sources, and the settings in them.
* `Settings.load`, `Settings.ofEnvironment` — the settings of a run.
-/

namespace Relata

/-! ### Errors -/

/-- Why a source cannot be used. -/
inductive SourceFault
  /-- The path leads to no file. -/
  | notFile (path : String)
  | yaml (error : Yaml.YamlError) (origin : String)
  | documents (count : Nat) (origin : String)
  | number (written origin : String)
  /-- A mapping has a key that is no scalar; `shown` is how it is shown. -/
  | unfitKey (shown origin : String)
  | root (found : Found) (origin : String)
  /-- A setting is of the wrong type. -/
  | mistyped (fault : TypeFault) (key : String)
  /-- The settings of the log are no table. -/
  | logging (found : Found)
  deriving DecidableEq, Repr, Inhabited

/-- The wording of what was found in place of a table of named settings. -/
def Found.plainMessage : Found → String
  | integer n => "integer `" ++ toString n ++ "`"
  | real x => "floating point `" ++ x.pointedText ++ "`"
  | found => found.message

/-- The name of a source behind a message. -/
def inOrigin (origin : String) : String := " in " ++ origin

/-- The wording of a type fault, with the setting if there is one. -/
def TypeFault.message (f : TypeFault) (key : Option String) : String :=
  "invalid type: " ++ f.found.message ++ ", expected " ++ f.wanted.message ++
    (key.map fun k => " for key `" ++ k ++ "`").getD "" ++ (f.origin.map inOrigin).getD ""

/-- The wording of a fault. -/
def SourceFault.message : SourceFault → String
  | notFile path => "configuration file \"" ++ path ++ "\" not found"
  | yaml e origin => e.message ++ inOrigin origin
  | documents n origin => "Got " ++ toString n ++ " YAML documents, expected 1" ++ inOrigin origin
  | number written origin =>
    "Parsing " ++ written ++ " as floating point number failed" ++ inOrigin origin
  | unfitKey shown origin =>
    "Cannot parse " ++ shown ++ " because it is an unsupported hash key type" ++ inOrigin origin
  | root found origin =>
    TypeFault.message ⟨found, .map, some origin⟩ none ++ inOrigin origin
  | mistyped fault key => fault.message (some key)
  | logging found =>
    "invalid type: " ++ found.plainMessage ++ ", expected struct LoggingSettings"

/-- Why there are no settings. -/
inductive SettingsError
  | load (fault : SourceFault)
  | fileNotFound (path : String)
  | invalid (problem : SettingsProblem)
  deriving DecidableEq, Repr, Inhabited

/-- The wording of an error. -/
def SettingsError.message : SettingsError → String
  | load fault => "failed to load configuration: " ++ fault.message
  | fileNotFound path => "configuration file not found: " ++ path
  | invalid problem => "invalid configuration: " ++ problem.message

/-! ### The environment -/

/-- Variables of the environment. -/
abbrev Environment := List (String × String)

/-- How the source of variables is named. -/
def environmentOrigin : String := "the environment"

/-- How the names of variables with settings start. -/
def variablePrefix : String := "fga_"

/-- Writes a point for each pair of underscores. -/
def pointed : List Char → List Char
  | '_' :: '_' :: rest => '.' :: pointed rest
  | c :: rest => c :: pointed rest
  | [] => []

/-- The path of the setting that a variable gives; none for other variables. Case does not count,
and two underscores stand before the name of a member. -/
def settingPath? (name : String) : Option String :=
  let name := (Text.lowered name).toList
  if variablePrefix.toList.isPrefixOf name then
    some (String.ofList (pointed (name.drop variablePrefix.length)))
  else none

/-- What the environment gives: a text for each setting, the last one if there are several. -/
def environmentTable (env : Environment) : Table :=
  env.foldl (fun table (name, value) => match settingPath? name with
    | some path => Table.put table path (.atom (some environmentOrigin) (.text value))
    | none => table) []

/-! ### Files -/

namespace Yaml.Node

/-- The name that a key of a mapping gives; none if it is no scalar. -/
def keyText? : Node → Option String
  | text s => some s
  | integer n => some (toString n)
  | boolean b => some (toString b)
  | real written => some written
  | _ => none

mutual

/-- A node as a value of a setting. -/
def loose (origin : String) : Node → Except SourceFault Loose
  | invalid | null => .ok (.atom (some origin) .null)
  | boolean b => .ok (.atom (some origin) (.boolean b))
  | integer n => .ok (.atom (some origin) (.integer n))
  | real written => match Loose.realOf? written with
    | some x => .ok (.atom (some origin) (.real x))
    | none => .error (.number written origin)
  | text s => .ok (.atom (some origin) (.text s))
  | sequence items => do return .list (some origin) (← looseItems origin items)
  | mapping members => do return .table (some origin) (← looseMembers origin [] members)

/-- Nodes as values. -/
def looseItems (origin : String) : List Node → Except SourceFault (List Loose)
  | [] => .ok []
  | n :: ns => do return (← loose origin n) :: (← looseItems origin ns)

/-- Members of a mapping as settings. -/
def looseMembers (origin : String) (table : Table) :
    List (Node × Node) → Except SourceFault Table
  | [] => .ok table
  | (k, v) :: rest => do
    match keyText? k with
    | none => throw (.unfitKey k.shown origin)
    | some name => looseMembers origin (table.put name (← loose origin v)) rest

end

end Yaml.Node

/-- What a text in YAML gives: nothing if it holds no document. -/
def yamlTable (origin text : String) : Except SourceFault Table := do
  match ← (Yaml.documents text).mapError (.yaml · origin) with
  | [] => return []
  | [document] =>
    match ← document.loose origin with
    | .table _ members => return members
    | other => throw (.root other.found origin)
  | several => throw (.documents several.length origin)

/-- The endings that stand for a file of settings whose name leaves them out. -/
def fileEndings : List String := [".yaml", ".yml"]

/-- The file that a path leads to, or one with an ending added to the path. -/
def settingsFile? (fs : Files) (path : String) : Option String :=
  if fs.isFile path then some path
  else
    let names := Path.significant (Path.parts path)
    let trimmed := (if Path.isAbsolute path then "/" else "") ++ "/".intercalate names
    if [none, some ".", some ".."].contains names.getLast? then none
    else (fileEndings.map (trimmed ++ ·)).find? fs.isFile

/-- What a file gives. -/
def fileTable (fs : Files) (path : String) : Except SettingsError Table := do
  if !fs.exist path then throw (.fileNotFound path)
  match settingsFile? fs path with
  | none => throw (.load (.notFile path))
  | some file =>
    let bytes := ((fs.read file).toOption.getD .empty).toList
    let text := Text.decoded (Text.withoutMark bytes)
    (yamlTable (fs.relative file) text).mapError .load

/-! ### Merged settings -/

namespace Settings

/-- An optional text as a value. -/
def optionalAtom (s : Option String) : Loose := .atom none ((s.map Atom.text).getD .null)

/-- Settings as a table. -/
def toTable (s : Settings) : Table :=
  [ ("store_id", optionalAtom s.storeId),
    ("api_url", optionalAtom s.apiUrl),
    ("authorization_model_id", optionalAtom s.modelId),
    ("api_token", optionalAtom s.apiToken),
    ("model_file", optionalAtom s.modelFile),
    ("output", .atom none (.text s.output)),
    ("request_timeout_secs", .atom none (.integer s.requestTimeout)),
    ("logging", .table none
      [ ("level", .atom none (.text s.logging.level)),
        ("json", .atom none (.boolean s.logging.json)) ]) ]

/-- Sources merged, the first one first: a later one wins. -/
def merged (sources : List Table) : Loose :=
  sources.foldl (fun target source => source.foldl (fun target (name, v) =>
    Loose.assignAt (KeyPath.parse name) v target) target) (.table none [])

/-- Reads a setting; `fallback` stands for one that is not there. -/
def setting {α : Type} (table : Loose) (name : String) (fallback : α)
    (read : Loose → Except TypeFault α) : Except SourceFault α :=
  match table.get? name with
  | none => .ok fallback
  | some v => (read v).mapError (.mistyped · name)

/-- Reads a text that may be missing or null. -/
def optionalText (v : Loose) : Except TypeFault (Option String) :=
  match v with
  | .atom _ .null => .ok none
  | v => v.asText.map some

/-- Reads a part of the settings of the log. -/
def logSetting {α : Type} (key : String) (v : Option Loose) (fallback : α)
    (read : Loose → Except TypeFault α) : Except SourceFault α :=
  match v with
  | none => .ok fallback
  | some v => (read v).mapError (.mistyped · ("logging" ++ key))

/-- Reads the settings of the log, by name or in order. -/
def logSettings (v : Loose) : Except SourceFault LogSettings :=
  let usual := LogSettings.default
  match v with
  | .table .. => do
    return ⟨← logSetting ".level" (v.get? "level") usual.level Loose.asText,
      ← logSetting ".json" (v.get? "json") usual.json Loose.asBoolean⟩
  | .list _ items => do
    return ⟨← logSetting "[0]" items[0]? usual.level Loose.asText,
      ← logSetting "[1]" items[1]? usual.json Loose.asBoolean⟩
  | other => .error (.logging other.found)

/-- The settings in a table. -/
def ofTable (table : Loose) : Except SourceFault Settings := do
  let usual := Settings.default
  return {
    storeId := ← setting table "store_id" usual.storeId optionalText
    apiUrl := ← setting table "api_url" usual.apiUrl optionalText
    modelId := ← setting table "authorization_model_id" usual.modelId optionalText
    apiToken := ← setting table "api_token" usual.apiToken optionalText
    modelFile := ← setting table "model_file" usual.modelFile optionalText
    output := ← setting table "output" usual.output Loose.asText
    requestTimeout := ← setting table "request_timeout_secs" usual.requestTimeout Loose.asCount
    logging := ← ((table.get? "logging").map logSettings).getD (.ok usual.logging) }

/-- The settings that sources give on top of the defaults. They must make sense. -/
def ofSources (sources : List Table) : Except SettingsError Settings := do
  let s ← (ofTable (merged (Settings.default.toTable :: sources))).mapError .load
  s.validate.mapError .invalid
  return s

/-- The settings from the environment. -/
def ofEnvironment (env : Environment) : Except SettingsError Settings :=
  ofSources [environmentTable env]

/-- The settings from the environment and a file. -/
def load (fs : Files) (env : Environment) (path : String) : Except SettingsError Settings := do
  ofSources [environmentTable env, ← fileTable fs path]

end Settings

end Relata
