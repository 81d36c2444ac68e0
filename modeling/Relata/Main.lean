import Relata.Command.Run

/-!
# The command

Looks at the files that a run can need, runs the command on them, and carries out what it has
changed. The command reaches no servers by itself: a model can be read from a file only.
-/

namespace Relata

/-- The variables with settings. -/
def variableNames : List String :=
  ["FGA_STORE_ID", "FGA_API_URL", "FGA_AUTHORIZATION_MODEL_ID", "FGA_API_TOKEN",
    "FGA_MODEL_FILE", "FGA_OUTPUT", "FGA_REQUEST_TIMEOUT_SECS", "FGA_LOGGING__LEVEL",
    "FGA_LOGGING__JSON"]

/-- The names on the way to a path, and the path itself. -/
def waypoints (fs : Files) (path : String) : List (List String) :=
  let step := fun (ways : List (List String)) part =>
    let here := ways.headD []
    (if part = ".." then here.dropLast else here ++ [part]) :: ways
  (((Path.parts path).filter (!Path.stays ·)).foldl step [fs.startOf path]).reverse

/-- Adds an entry to the files if it exists. -/
def observe (fs : Files) (names : List String) : IO Files := do
  try
    let path := "/" ++ "/".intercalate names
    let info ← (← IO.FS.realPath path).metadata
    match info.type with
    | .dir => return fs.put names .directory
    | _ => return fs.put names (.file (← IO.FS.readBinFile path))
  catch _ => return fs

/-- Adds what lies on the way to some paths to the files. -/
def observePaths (fs : Files) (paths : List String) : IO Files :=
  (paths.flatMap (waypoints fs)).foldlM observe fs

/-- The paths of settings that a run can look at. -/
def settingsPaths (named : Option String) : List String :=
  let path := named.getD usualSettingsFile
  path :: fileEndings.map (path ++ ·)

/-- The time, which is that of a new file. -/
def currentInstant : IO Instant :=
  IO.FS.withTempFile fun _ path => do
    let time := (← path.metadata).modified
    return ⟨time.sec, time.nsec.toNat⟩

/-- What a run sees. -/
def observedWorld (arguments : List String) : IO World := do
  let directory := ((← IO.currentDir).toString.splitOn "/").filter (· ≠ "")
  let environment ← variableNames.filterMapM fun name => do
    return (← IO.getEnv name).map fun value => (name, value)
  let world : World := ⟨⟨[], directory⟩, environment, fun _ => .refused, ← currentInstant⟩
  match Invocation.ofArguments arguments with
  | .ok (.generate named) =>
    let world := { world with files := ← observePaths world.files (settingsPaths named) }
    match world.settings named with
    | .error _ => return world
    | .ok settings =>
      let paths := [(filled? settings.modelFile).getD ".", settings.output]
      return { world with files := ← observePaths world.files paths }
  | _ => return world

/-- Carries out a change. -/
def carryOut (names : List String) (entry : Entry) : IO Unit := do
  let path := "/" ++ "/".intercalate names
  match entry with
  | .directory => IO.FS.createDirAll path
  | .file content => IO.FS.writeBinFile path content

/-- Runs the command. -/
def runCommand (arguments : List String) : IO UInt32 := do
  let world ← observedWorld arguments
  let outcome := world.run arguments
  for (names, entry) in world.files.changesSince outcome.files do
    carryOut names entry
  IO.print outcome.stdout
  IO.eprint outcome.stderr
  return outcome.exitCode.toUInt32

end Relata

/-- The command. -/
def main (arguments : List String) : IO UInt32 := Relata.runCommand arguments
