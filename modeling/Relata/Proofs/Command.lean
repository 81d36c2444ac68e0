import Relata.Command.Run
import Relata.Proofs.Files

/-!
# What a run leaves of the files

A run changes nothing before it has a module. What it does then is one write with the creation of
its parent: the output holds the module, or no content has changed.

## Main definitions

* `World.WritesOrNothing` — what a run does to the files, step by step.
* `World.holding` — a world with a model in a file and an output.

## Main results

* `GeneratedModule.stores_of_save`, `GeneratedModule.adds_of_save` — what writing a module changes.
* `World.writesOrNothing` — **a run writes its output or nothing.**
* `World.writesOrNothing_holding` — every step can be the last one.
-/

namespace Relata

variable {w : World} {arguments : List String} {named : Option String} {settings : Settings}
  {m : Model} {g : GeneratedModule} {fs fs' : Files} {path : String}

/-! ### Writing a module -/

theorem GeneratedModule.stores_of_save (h : g.save fs path = (.ok (), fs')) :
    fs.Stores fs' path g.source := by
  rw [save] at h
  split at h
  · next hwrite =>
    obtain ⟨-, rfl⟩ := Prod.mk.inj h
    exact Files.stores_of_writeCreating hwrite
  · nomatch h

theorem GeneratedModule.save_eq_ok (h : fs.writeCreating path g.source.toUTF8 = (.ok (), fs')) :
    g.save fs path = (.ok (), fs') := by
  rw [save, h]

theorem GeneratedModule.save_eq_error {e : FileError}
    (h : fs.writeCreating path g.source.toUTF8 = (.error e, fs')) :
    g.save fs path = (.error ⟨path, e⟩, fs') := by
  rw [save, h]

theorem GeneratedModule.adds_of_save {e : WriteError} (h : g.save fs path = (.error e, fs')) :
    fs.Adds (fs.IsOnWay path) fs' := by
  rw [save] at h
  split at h
  · nomatch h
  · next hwrite =>
    obtain ⟨-, rfl⟩ := Prod.mk.inj h
    exact Files.adds_of_writeCreating hwrite

/-! ### Runs -/

namespace World

/-- A run that has written its module ends well. -/
theorem run_of_written {files : Files}
    (h : Invocation.ofArguments arguments = .ok (.generate named))
    (hg : w.generateModule named = (.ok path, files)) :
    w.run arguments = ⟨0, "Generated " ++ path ++ "\n", "", files⟩ := by
  simp only [run, h, hg]

/-- A run that stops at an error reports it. -/
theorem run_of_stopped {e : RunError} {files : Files}
    (h : Invocation.ofArguments arguments = .ok (.generate named))
    (hg : w.generateModule named = (.error e, files)) :
    w.run arguments = ⟨failureCode, "", e.report, files⟩ := by
  simp only [run, h, hg]

/-- A run that has no module leaves the files as they are. -/
theorem run_of_generated_error {e : RunError}
    (h : Invocation.ofArguments arguments = .ok (.generate named))
    (he : w.generated named = .error e) :
    (w.run arguments).exitCode = failureCode ∧ (w.run arguments).files = w.files := by
  have hstopped : w.generateModule named = (.error e, w.files) := by
    simp only [generateModule, he]
  rw [run_of_stopped h hstopped]
  exact ⟨rfl, rfl⟩

/-- The steps before the write, one after the other. -/
theorem generated_of_steps (hs : w.settings named = .ok settings)
    (hm : settings.loadModel w.files w.server = .ok m) (hg : m.generateAt w.now = .ok g) :
    w.generated named = .ok (settings, g) := by
  rw [generated, hs]
  simp only [bind, Except.bind, hm, hg, Except.mapError]
  rfl

/-- A run whose module is saved ends well. -/
theorem run_of_saved {files : Files} (h : Invocation.ofArguments arguments = .ok (.generate named))
    (hg : w.generated named = .ok (settings, g))
    (hsave : g.save w.files settings.output = (.ok (), files)) :
    w.run arguments = ⟨0, "Generated " ++ settings.output ++ "\n", "", files⟩ := by
  refine run_of_written h ?_
  simp only [generateModule, hg, hsave]

/-- A run whose module is not saved reports it. -/
theorem run_of_unsaved {e : WriteError} {files : Files}
    (h : Invocation.ofArguments arguments = .ok (.generate named))
    (hg : w.generated named = .ok (settings, g))
    (hsave : g.save w.files settings.output = (.error e, files)) :
    w.run arguments = ⟨failureCode, "", (RunError.write e).report, files⟩ := by
  refine run_of_stopped h ?_
  simp only [generateModule, hg, hsave]

/-- A run that has a module writes it, and ends well if and only if that is done. -/
theorem run_of_generated (h : Invocation.ofArguments arguments = .ok (.generate named))
    (hg : w.generated named = .ok (settings, g)) :
    ((w.run arguments).exitCode = 0 ∧
        w.files.Stores (w.run arguments).files settings.output g.source) ∨
      ((w.run arguments).exitCode = failureCode ∧
        w.files.Adds (w.files.IsOnWay settings.output) (w.run arguments).files) := by
  cases hsave : g.save w.files settings.output with
  | mk result files =>
    cases result with
    | ok =>
      rw [run_of_saved h hg hsave]
      exact Or.inl ⟨rfl, GeneratedModule.stores_of_save hsave⟩
    | error e =>
      rw [run_of_unsaved h hg hsave]
      exact Or.inr ⟨rfl, GeneratedModule.adds_of_save hsave⟩

/-! ### Worlds with one file -/

/-- The variables that name a model file and an output. -/
def naming (output : String) : Environment := [("FGA_MODEL_FILE", "m"), ("FGA_OUTPUT", output)]

/-- A world with a model in a file, which the environment names besides the output. -/
def holding (content output : String) : World where
  files := .holding content
  environment := naming output
  server := fun _ => .refused
  now := default

/-- The environment settles the model file and the output. -/
def IsSettled (output : String) : Prop :=
  (Settings.ofEnvironment (naming output)).toOption.map (fun s => (s.output, s.modelSource?)) =
    some (output, some (.file "m"))

/-- The content is a model that has a module. -/
def HasModule (content : String) : Prop :=
  (Model.ofContent content).toOption.map (fun m => (m.generateAt default).toOption.isSome) =
    some true

section Holding

variable {content output : String}

/-- There is no file of settings, so the environment gives them. -/
theorem settings_holding (content output : String) : (holding content output).settings none =
    (Settings.ofEnvironment (naming output)).mapError (.settings "environment") := by
  have hparts : Path.parts usualSettingsFile = [usualSettingsFile] := by
    rw [Path.parts_eq]
    decide +kernel
  have hmissing : (Files.holding content).exist usualSettingsFile = false := by
    rw [Files.exist, Files.locate, hparts, Files.startOf_holding]
    rfl
  have hfiles : (holding content output).files = .holding content := rfl
  rw [settings, hfiles, hmissing]
  rfl

/-- The settings name the output and the file, and the model is what the file holds. -/
theorem IsSettled.exists_settings (h : IsSettled output) (content : String) :
    ∃ s, (holding content output).settings none = .ok s ∧ s.output = output ∧
      s.loadModel (holding content output).files (holding content output).server =
        (Model.ofContent content).mapError .model := by
  obtain ⟨s, hs, hvalues⟩ := Option.map_eq_some_iff.mp h
  obtain ⟨houtput, hsource⟩ := Prod.mk.inj hvalues
  refine ⟨s, ?_, houtput, ?_⟩
  · rw [settings_holding, toOption_eq_some.mp hs]
    rfl
  · have hread : (holding content output).files.readText "m" = .ok content :=
      Files.readText_holding content
    simp only [Settings.loadModel, hsource, Model.ofFile, hread]
    rfl

/-- The steps before the write succeed. -/
theorem IsSettled.exists_module (h : IsSettled output) (hmodule : HasModule content) :
    ∃ s m g, (holding content output).settings none = .ok s ∧ s.output = output ∧
      s.loadModel (holding content output).files (holding content output).server = .ok m ∧
      m.generateAt (holding content output).now = .ok g := by
  obtain ⟨s, hs, houtput, hload⟩ := h.exists_settings content
  obtain ⟨m, hm, hmodule⟩ := Option.map_eq_some_iff.mp hmodule
  obtain ⟨g, hg⟩ := Option.isSome_iff_exists.mp hmodule
  rw [toOption_eq_some.mp hm] at hload
  exact ⟨s, m, g, hs, houtput, hload, toOption_eq_some.mp hg⟩

theorem isSettled_types : IsSettled "types/fga.ts" := by
  unfold IsSettled
  decide +kernel

theorem hasModule_user : HasModule "type user\n" := by
  unfold HasModule
  decide +kernel

end Holding

/-- A module is written to a directory that is missing. -/
def stored : World := holding "type user\n" "types/fga.ts"

theorem exitCode_stored : ∃ s m g, stored.settings none = .ok s ∧ s.output = "types/fga.ts" ∧
    s.loadModel stored.files stored.server = .ok m ∧ m.generateAt stored.now = .ok g ∧
    (stored.run []).exitCode = 0 := by
  obtain ⟨s, m, g, hs, houtput, hm, hg⟩ := isSettled_types.exists_module hasModule_user
  have hsave := GeneratedModule.save_eq_ok (g := g)
    (Files.writeCreating_holding "type user\n" g.source.toUTF8)
  rw [← houtput] at hsave
  refine ⟨s, m, g, hs, houtput, hm, hg, ?_⟩
  rw [run_of_saved (w := stored) rfl (generated_of_steps hs hm hg) hsave]

/-- A module would be written to a directory, but a file has its name. -/
def blocked : World := holding "type user\n" "m/fga.ts"

theorem exitCode_blocked : ∃ s m g, blocked.settings none = .ok s ∧ s.output = "m/fga.ts" ∧
    s.loadModel blocked.files blocked.server = .ok m ∧ m.generateAt blocked.now = .ok g ∧
    (blocked.run []).exitCode = failureCode := by
  have hsettled : IsSettled "m/fga.ts" := by
    unfold IsSettled
    decide +kernel
  obtain ⟨s, m, g, hs, houtput, hm, hg⟩ := hsettled.exists_module hasModule_user
  have hsave := GeneratedModule.save_eq_error (g := g)
    (Files.writeCreating_holding_below "type user\n" g.source.toUTF8)
  rw [← houtput] at hsave
  refine ⟨s, m, g, hs, houtput, hm, hg, ?_⟩
  rw [run_of_unsaved (w := blocked) rfl (generated_of_steps hs hm hg) hsave]

/-- Two types of the model need one identifier. -/
def colliding : World := holding "type a_b\ntype a-b\n" "types/fga.ts"

theorem generateAt_colliding : ∃ s m e, colliding.settings none = .ok s ∧
    s.loadModel colliding.files colliding.server = .ok m ∧
    m.generateAt colliding.now = .error e := by
  obtain ⟨s, hs, -, hload⟩ := isSettled_types.exists_settings "type a_b\ntype a-b\n"
  have hcollision : (Model.ofContent "type a_b\ntype a-b\n").toOption.map
      (fun m => (m.generateAt default).toOption.isNone) = some true := by
    decide +kernel
  obtain ⟨m, hm, hcollision⟩ := Option.map_eq_some_iff.mp hcollision
  obtain ⟨e, he⟩ := toOption_eq_none.mp (Option.isNone_iff_eq_none.mp hcollision)
  rw [toOption_eq_some.mp hm] at hload
  exact ⟨s, m, e, hs, hload, he⟩

/-- The text in the file is no model. -/
def unreadable : World := holding "type" "types/fga.ts"

theorem loadModel_unreadable : ∃ s e, unreadable.settings none = .ok s ∧
    s.loadModel unreadable.files unreadable.server = .error e := by
  obtain ⟨s, hs, -, hload⟩ := isSettled_types.exists_settings "type"
  have hunread : (Model.ofContent "type").toOption.isNone = true := by decide +kernel
  obtain ⟨e, he⟩ := toOption_eq_none.mp (Option.isNone_iff_eq_none.mp hunread)
  rw [he] at hload
  exact ⟨s, .model e, hs, hload⟩

/-- The output has no name. -/
def unsettled : World := holding "type user\n" ""

theorem settings_unsettled : ∃ e, unsettled.settings none = .error e := by
  have hnameless : (Settings.ofEnvironment (naming "")).toOption = none := by decide +kernel
  obtain ⟨e, he⟩ := toOption_eq_none.mp hnameless
  have hs := settings_holding "type user\n" ""
  rw [he] at hs
  exact ⟨.settings "environment" e, hs⟩

/-! ### What a run does to the files -/

/-- What a run does to the files, wherever it ends. -/
structure WritesOrNothing (w : World) (arguments : List String) : Prop where
  /-- Wrong arguments, and those that ask for a text only. -/
  idle : (∀ named, Invocation.ofArguments arguments ≠ .ok (.generate named)) →
    (w.run arguments).files = w.files
  settings : ∀ named e, Invocation.ofArguments arguments = .ok (.generate named) →
    w.settings named = .error e →
      (w.run arguments).exitCode = failureCode ∧ (w.run arguments).files = w.files
  model : ∀ named s e, Invocation.ofArguments arguments = .ok (.generate named) →
    w.settings named = .ok s → s.loadModel w.files w.server = .error e →
      (w.run arguments).exitCode = failureCode ∧ (w.run arguments).files = w.files
  generation : ∀ named s m e, Invocation.ofArguments arguments = .ok (.generate named) →
    w.settings named = .ok s → s.loadModel w.files w.server = .ok m →
      m.generateAt w.now = .error e →
        (w.run arguments).exitCode = failureCode ∧ (w.run arguments).files = w.files
  /-- The module is stored at the output, or directories were created at most. -/
  write : ∀ named s m g, Invocation.ofArguments arguments = .ok (.generate named) →
    w.settings named = .ok s → s.loadModel w.files w.server = .ok m →
      m.generateAt w.now = .ok g →
        ((w.run arguments).exitCode = 0 ∧
            w.files.Stores (w.run arguments).files s.output g.source) ∨
          ((w.run arguments).exitCode = failureCode ∧
            w.files.Adds (w.files.IsOnWay s.output) (w.run arguments).files)

/-- **A run writes its output or nothing.** -/
theorem writesOrNothing (w : World) (arguments : List String) : w.WritesOrNothing arguments where
  idle h := by
    rw [run]
    split
    · rfl
    · rfl
    · rfl
    · next named hsettled => exact absurd hsettled (h named)
  settings named e h he := by
    refine run_of_generated_error (e := e) h ?_
    rw [generated, he]
    rfl
  model named s e h hs he := by
    refine run_of_generated_error (e := .load e) h ?_
    rw [generated, hs]
    simp only [bind, Except.bind, he, Except.mapError]
  generation named s m e h hs hm he := by
    refine run_of_generated_error (e := .generation e) h ?_
    rw [generated, hs]
    simp only [bind, Except.bind, hm, he, Except.mapError]
  write named s m g h hs hm hg := run_of_generated h (generated_of_steps hs hm hg)

/-- **Every step can be the last one**: the write, a write that fails, the module, the model, the
settings and the arguments. -/
theorem writesOrNothing_holding :
    (∃ s m g, stored.settings none = .ok s ∧ s.loadModel stored.files stored.server = .ok m ∧
      m.generateAt stored.now = .ok g ∧ (stored.run []).exitCode = 0 ∧
      stored.files.Stores (stored.run []).files "types/fga.ts" g.source) ∧
    (∃ s m g, blocked.settings none = .ok s ∧ s.loadModel blocked.files blocked.server = .ok m ∧
      m.generateAt blocked.now = .ok g ∧ (blocked.run []).exitCode = failureCode ∧
      blocked.files.Adds (blocked.files.IsOnWay "m/fga.ts") (blocked.run []).files) ∧
    (∃ s m e, colliding.settings none = .ok s ∧
      s.loadModel colliding.files colliding.server = .ok m ∧
      m.generateAt colliding.now = .error e ∧ (colliding.run []).exitCode = failureCode ∧
      (colliding.run []).files = colliding.files) ∧
    (∃ s e, unreadable.settings none = .ok s ∧
      s.loadModel unreadable.files unreadable.server = .error e ∧
      (unreadable.run []).exitCode = failureCode ∧ (unreadable.run []).files = unreadable.files) ∧
    (∃ e, unsettled.settings none = .error e ∧ (unsettled.run []).exitCode = failureCode ∧
      (unsettled.run []).files = unsettled.files) ∧
    (stored.run ["--version"]).files = stored.files := by
  have hnone : Invocation.ofArguments [] = .ok (.generate none) := rfl
  refine ⟨?written, ?notWritten, ?notGenerated, ?notLoaded, ?notSettled, ?notRun⟩
  case written =>
    obtain ⟨s, m, g, hs, houtput, hm, hg, hcode⟩ := exitCode_stored
    refine ⟨s, m, g, hs, hm, hg, hcode, ?_⟩
    rcases (writesOrNothing stored []).write none s m g hnone hs hm hg with ⟨-, h⟩ | ⟨h, -⟩
    · rwa [houtput] at h
    · rw [hcode] at h
      contradiction
  case notWritten =>
    obtain ⟨s, m, g, hs, houtput, hm, hg, hcode⟩ := exitCode_blocked
    refine ⟨s, m, g, hs, hm, hg, hcode, ?_⟩
    rcases (writesOrNothing blocked []).write none s m g hnone hs hm hg with ⟨h, -⟩ | ⟨-, h⟩
    · rw [hcode] at h
      contradiction
    · rwa [houtput] at h
  case notGenerated =>
    obtain ⟨s, m, e, hs, hm, he⟩ := generateAt_colliding
    exact ⟨s, m, e, hs, hm, he,
      (writesOrNothing colliding []).generation none s m e hnone hs hm he⟩
  case notLoaded =>
    obtain ⟨s, e, hs, he⟩ := loadModel_unreadable
    exact ⟨s, e, hs, he, (writesOrNothing unreadable []).model none s e hnone hs he⟩
  case notSettled =>
    obtain ⟨e, he⟩ := settings_unsettled
    exact ⟨e, he, (writesOrNothing unsettled []).settings none e hnone he⟩
  case notRun => exact (writesOrNothing stored ["--version"]).idle fun named h => by cases h

end World

end Relata
