import Relata.Command.Arguments
import Relata.Model.Load
import Relata.Module.Output
import Relata.Settings.Sources

/-!
# A run of the command

The command reads its settings, loads the model, generates the module and writes it, in this
order. The first step that fails ends the run, with an error and its causes.

## Main definitions

* `World` — what a run sees; `Outcome` — what it leaves behind.
* `RunError` — why a run fails; `RunError.report` is the wording.
* `generateModule` — the steps without the arguments.
* `run` — a run.
-/

namespace Relata

/-- What a run sees. -/
structure World where
  files : Files
  environment : Environment
  server : Server
  now : Instant

/-- What a run leaves behind. -/
structure Outcome where
  exitCode : Nat
  stdout : String
  stderr : String
  files : Files
  deriving Inhabited

/-! ### Errors -/

/-- Why a run fails. -/
inductive RunError
  /-- The settings of a source cannot be used. -/
  | settings (source : String) (error : SettingsError)
  | load (error : LoadError)
  | generation (error : GenerationError)
  | write (error : WriteError)
  deriving DecidableEq, Repr, Inhabited

namespace RunError

/-- What the run was doing. -/
def headline : RunError → String
  | settings source _ => "loading configuration from " ++ source
  | load _ => "loading authorization model"
  | generation _ => "generating TypeScript module"
  | write e => e.message

/-- The causes of the error, each the reason of the one before. -/
def causes : RunError → List String
  | settings _ e => e.message :: match e with
    | .load fault => [fault.message]
    | _ => []
  | load e => e.message :: match e with
    | .read _ error => [error.message]
    | .fetch (.request _ fault) => fault.message :: fault.causes
    | _ => []
  | generation e => [e.message]
  | write e => [e.error.message]

/-- A text with a label before its first line, and the others as far to the right. -/
def labelled (label text : String) : String :=
  let indent := String.ofList (List.replicate label.length ' ')
  label ++ ("\n" ++ indent).intercalate (text.splitOn "\n")

/-- The causes under each other, with numbers if there are several. -/
def listed : List String → List String
  | [cause] => [labelled "    " cause]
  | causes => causes.zipIdx.map fun (cause, n) => labelled ("    " ++ toString n ++ ": ") cause

/-- The report about an error. -/
def report (e : RunError) : String :=
  "Error: " ++ e.headline ++ "\n\nCaused by:\n" ++ "\n".intercalate (listed e.causes) ++ "\n"

end RunError

/-! ### Runs -/

/-- The file of settings that is used if none is named. -/
def usualSettingsFile : String := "fga-typegen.yaml"

/-- Reads the settings: from the file that is named, from the usual one if it exists, or from the
environment alone. -/
def World.settings (w : World) (named : Option String) : Except RunError Settings :=
  match named with
  | some path => (Settings.load w.files w.environment path).mapError (.settings path)
  | none =>
    if w.files.exist usualSettingsFile then
      (Settings.load w.files w.environment usualSettingsFile).mapError
        (.settings usualSettingsFile)
    else (Settings.ofEnvironment w.environment).mapError (.settings "environment")

/-- The settings of a run and the module that it generates. -/
def World.generated (w : World) (named : Option String) :
    Except RunError (Settings × GeneratedModule) := do
  let settings ← w.settings named
  let model ← (settings.loadModel w.files w.server).mapError .load
  let generated ← (model.generateAt w.now).mapError .generation
  return (settings, generated)

/-- Generates the module and writes it. Gives its path, and the files in any case. -/
def World.generateModule (w : World) (named : Option String) : Except RunError String × Files :=
  match w.generated named with
  | .error e => (.error e, w.files)
  | .ok (settings, generated) =>
    match generated.save w.files settings.output with
    | (.error e, files) => (.error (.write e), files)
    | (.ok (), files) => (.ok settings.output, files)

/-- The exit code of a run that fails. -/
def failureCode : Nat := 1

/-- The exit code of a run whose arguments are wrong. -/
def usageCode : Nat := 2

/-- A run with the given arguments. -/
def World.run (w : World) (arguments : List String) : Outcome :=
  match Invocation.ofArguments arguments with
  | .error e => ⟨usageCode, "", e.message, w.files⟩
  | .ok .help => ⟨0, helpText, "", w.files⟩
  | .ok .version => ⟨0, versionText, "", w.files⟩
  | .ok (.generate named) =>
    match w.generateModule named with
    | (.ok path, files) => ⟨0, "Generated " ++ path ++ "\n", "", files⟩
    | (.error e, files) => ⟨failureCode, "", e.report, files⟩

end Relata
