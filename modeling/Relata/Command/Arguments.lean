import Relata.Command.Similarity

/-!
# Arguments of the command

The command has one option, a file of settings, and can show its help or its version. Arguments are
read one by one; help and version end the reading.

## Main definitions

* `Invocation` — what the arguments ask for.
* `UsageError` — what is wrong with the arguments, and the wording.
* `Invocation.ofArguments` — reads the arguments.
-/

namespace Relata

/-- What the arguments ask for. -/
inductive Invocation
  /-- Generates a module with the settings in a file, if one is named. -/
  | generate (settingsFile : Option String)
  | help
  | version
  deriving DecidableEq, Repr, Inhabited

/-- The name of the command. -/
def commandName : String := "rsfga-typegen"

/-- The version of the command. -/
def commandVersion : String := "0.1.0"

/-- How the option for a file of settings is shown. -/
def optionText : String := "--config <CONFIG>"

/-- What the version option shows. -/
def versionText : String := commandName ++ " " ++ commandVersion ++ "\n"

/-- What the help option shows. -/
def helpText : String :=
  "Command-line front end for rsfga-typegen\n\n" ++
  "Usage: " ++ commandName ++ " [OPTIONS]\n\n" ++
  "Options:\n" ++
  "  -c, --config <CONFIG>  Path to configuration file (YAML) [default: fga-typegen.yaml]\n" ++
  "  -h, --help             Print help\n" ++
  "  -V, --version          Print version\n"

/-! ### Errors -/

/-- What is wrong with the arguments. `used` holds the options that the usage line is to show. -/
inductive UsageError
  /-- An argument that is none of the command; `similar` is an option like it. -/
  | unexpected (argument : String) (similar : Option String) (used : List String)
  /-- A value behind an option that has none. -/
  | unexpectedValue (value option : String) (used : List String)
  | missingValue
  | repeatedOption
  deriving DecidableEq, Repr, Inhabited

namespace UsageError

/-- What is wrong. -/
def reason : UsageError → String
  | unexpected argument similar _ =>
    "unexpected argument '" ++ argument ++ "' found" ++
      (similar.map fun o => "\n\n  tip: a similar argument exists: '" ++ o ++ "'").getD ""
  | unexpectedValue value option _ =>
    "unexpected value '" ++ value ++ "' for '" ++ option ++ "' found; no more were expected"
  | missingValue => "a value is required for '" ++ optionText ++ "' but none was supplied"
  | repeatedOption => "the argument '" ++ optionText ++ "' cannot be used multiple times"

/-- The usage line that explains the error, if one does. -/
def usage? : UsageError → Option String
  | unexpected _ _ [] | repeatedOption => some (commandName ++ " [OPTIONS]")
  | unexpected _ _ used | unexpectedValue _ _ used =>
    some (" ".intercalate (commandName :: used))
  | missingValue => none

/-- The wording of the error. -/
def message (e : UsageError) : String :=
  "error: " ++ e.reason ++ (e.usage?.map ("\n\nUsage: " ++ ·)).getD "" ++
    "\n\nFor more information, try '--help'.\n"

end UsageError

/-! ### Reading -/

/-- What has been read of the arguments. -/
structure ArgumentState where
  settingsFile : Option String
  /-- The option has been named last; holds its value if that has been read. -/
  pending : Option (Option String)
  /-- Whether only operands follow. -/
  operandsOnly : Bool
  deriving DecidableEq, Repr, Inhabited

namespace ArgumentState

/-- Nothing has been read. -/
def start : ArgumentState := ⟨none, none, false⟩

/-- Gives the option a value. -/
def setFile (s : ArgumentState) (value : String) : Except UsageError ArgumentState :=
  if s.settingsFile.isSome then .error .repeatedOption
  else if value = "" then .error .missingValue
  else .ok { s with settingsFile := some value, pending := none }

/-- Ends the option that has been named last. -/
def settle (s : ArgumentState) : Except UsageError ArgumentState :=
  match s.pending with
  | none => .ok s
  | some none => .error .missingValue
  | some (some value) => s.setFile value

/-- The options that have a value. -/
def used (s : ArgumentState) : List String :=
  match s.settle with
  | .ok t => if t.settingsFile.isSome then [optionText] else []
  | .error _ => if s.settingsFile.isSome then [optionText] else []

/-- Names the option, with its value or before it. -/
def nameOption (s : ArgumentState) (value : Option String) : Except UsageError ArgumentState := do
  let s ← s.settle
  match value with
  | some v => s.setFile v
  | none => return { s with pending := some none }

end ArgumentState

/-- The long options. -/
def longOptions : List String := ["config", "help", "version"]

/-- How an option is shown in a usage line. -/
def shownOption (name : String) : String := if name = "config" then optionText else "--" ++ name

/-- From this similarity on, an option is proposed in place of an unknown one. -/
def proposalThreshold : Ratio := ⟨7, 10⟩

/-- The option that is most like an unknown one. -/
def similarOption? (name : String) : Option String :=
  let better := fun (best : Option String) (option : String) =>
    let ratio := similarity name option
    let bound := (best.map (similarity name)).getD proposalThreshold
    if ratio.exceeds bound then some option else best
  longOptions.foldl better none

/-- The complaint about an unknown long option. -/
def unknownOption (s : ArgumentState) (name : String) : UsageError :=
  match similarOption? name with
  | some option =>
    let used := s.used
    let shown := shownOption option
    .unexpected ("--" ++ name) (some ("--" ++ option))
      (if used.contains shown then used else used ++ [shown])
  | none => .unexpected ("--" ++ name) none s.used

/-- Reads a long option, named behind two dashes. -/
def readLong (s : ArgumentState) (name : String) (value : Option String) :
    Except UsageError (ArgumentState ⊕ Invocation) :=
  match name, value with
  | "config", value => (s.nameOption value).map .inl
  | "help", none => s.settle.map fun _ => .inr .help
  | "version", none => s.settle.map fun _ => .inr .version
  | "help", some v | "version", some v =>
    .error (.unexpectedValue v ("--" ++ name) (s.used ++ ["--" ++ name]))
  | _, _ => .error (unknownOption s name)

/-- Reads a short option, named behind a dash. What follows the letter is its value. -/
def readShort (s : ArgumentState) (letter : Char) (rest : List Char) :
    Except UsageError (ArgumentState ⊕ Invocation) :=
  match letter with
  | 'c' =>
    let value := match rest with
      | [] => none
      | '=' :: v => some (String.ofList v)
      | v => some (String.ofList v)
    (s.nameOption value).map .inl
  | 'h' => s.settle.map fun _ => .inr .help
  | 'V' => s.settle.map fun _ => .inr .version
  | _ => .error (.unexpected (String.ofList ['-', letter]) none [])

/-- Reads an argument. -/
def readArgument (s : ArgumentState) (argument : String) :
    Except UsageError (ArgumentState ⊕ Invocation) :=
  let operand : Except UsageError (ArgumentState ⊕ Invocation) :=
    .error (.unexpected argument none [])
  if s.operandsOnly then operand
  else match argument.toList with
    | ['-', '-'] => .ok (.inl { s with operandsOnly := true })
    | '-' :: '-' :: cs =>
      let name := String.ofList (cs.takeWhile (· ≠ '='))
      let value := match cs.dropWhile (· ≠ '=') with
        | [] => none
        | _ :: v => some (String.ofList v)
      readLong s name value
    | '-' :: letter :: rest => readShort s letter rest
    | _ =>
      if s.pending = some none then .ok (.inl { s with pending := some (some argument) })
      else operand

/-- Reads the arguments that are left. -/
def readArguments (s : ArgumentState) : List String → Except UsageError Invocation
  | [] => do return .generate (← s.settle).settingsFile
  | argument :: rest => do
    match ← readArgument s argument with
    | .inl s => readArguments s rest
    | .inr invocation => return invocation

/-- Reads the arguments of the command. -/
def Invocation.ofArguments (arguments : List String) : Except UsageError Invocation :=
  readArguments .start arguments

end Relata
