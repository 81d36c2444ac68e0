import Relata.Model.Load
import Relata.Proofs.Blank
import Relata.Proofs.Result
import Relata.Settings.Sources

/-!
# Settings that make sense

Settings are looked at three times: when they are validated, when the model is loaded, and when the
log is set up. The three agree on what counts as given, so a run whose settings are valid has a
source for its model, and its log has the level that is named.

## Main definitions

* `IsFilled` — a setting that says more than blanks.
* `Settings.TakesFrom` — where settings take the model from.

## Main results

* `Settings.validate_eq_ok` — which settings are valid.
* `Settings.validate_settles` — **valid settings name a source and a level.**
-/

namespace Relata

/-- A setting that says more than blanks; `value` is what it says between them. -/
structure IsFilled (setting : Option String) (value : String) : Prop where
  given : ∃ text, setting = some text ∧ Text.trimmed text = value
  ne_empty : value ≠ ""
  trimmed : Text.trimmed value = value

namespace Settings

/-- Where settings take the model from: a file wins, and a server needs an address and a store. -/
inductive TakesFrom (s : Settings) : ModelSource → Prop
  | file {path : String} : IsFilled s.modelFile path → TakesFrom s (.file path)
  | server {apiUrl storeId : String} {modelId : Option String} :
      (∀ path, ¬ IsFilled s.modelFile path) → IsFilled s.apiUrl apiUrl →
      IsFilled s.storeId storeId → (∀ id, modelId = some id ↔ IsFilled s.modelId id) →
      TakesFrom s (.server apiUrl storeId modelId)

end Settings

/-! ### Sources -/

theorem filled?_eq_some {setting : Option String} {value : String} :
    filled? setting = some value ↔ IsFilled setting value := by
  simp only [filled?, Option.filter_eq_some_iff, Option.map_eq_some_iff, decide_eq_true_eq]
  constructor
  · rintro ⟨⟨text, rfl, rfl⟩, hne⟩
    exact ⟨⟨text, rfl, rfl⟩, hne, Text.trimmed_trimmed text⟩
  · rintro ⟨hgiven, hne, -⟩
    exact ⟨hgiven, hne⟩

namespace Settings

variable {s : Settings}

/-- The source that is found is the one that the settings name. -/
theorem modelSource?_eq_some {source : ModelSource} :
    s.modelSource? = some source ↔ s.TakesFrom source := by
  rw [modelSource?]
  -- a file is taken before a server
  cases hfile : filled? s.modelFile with
  | some path =>
    have hpath := filled?_eq_some.mp hfile
    constructor
    · rintro ⟨⟩
      exact .file hpath
    · rintro (hpath' | ⟨hnone, -, -, -⟩)
      · rw [← hfile, filled?_eq_some.mpr hpath']
      · exact absurd hpath (hnone path)
  | none =>
    have hnone : ∀ path, ¬ IsFilled s.modelFile path := by
      intro path hpath
      rw [filled?_eq_some.mpr hpath] at hfile
      contradiction
    simp only [Option.bind_eq_bind, Option.bind_eq_some_iff, Option.pure_def, Option.some.injEq]
    constructor
    · rintro ⟨apiUrl, hurl, storeId, hstore, rfl⟩
      exact .server hnone (filled?_eq_some.mp hurl) (filled?_eq_some.mp hstore)
        fun _ => filled?_eq_some
    · rintro (hpath | @⟨apiUrl, storeId, modelId, -, hurl, hstore, hid⟩)
      · exact absurd hpath (hnone _)
      · refine ⟨apiUrl, filled?_eq_some.mpr hurl, storeId, filled?_eq_some.mpr hstore, ?_⟩
        congr 1
        exact Option.ext fun id => by rw [hid, filled?_eq_some]

end Settings

/-! ### Levels -/

/-- A name of a level is one of the five, in any case. -/
theorem Level.ofName?_eq_some {name : String} {level : Level} :
    Level.ofName? name = some level ↔ level.settingName = Text.lowered name := by
  have hinj : ∀ l l' : Level, l.settingName = l'.settingName → l = l' := by
    intro l l'
    cases l <;> cases l' <;> decide
  have hall : ∀ l : Level, l ∈ Level.all := by
    intro l
    cases l <;> decide
  constructor
  · intro h
    simpa using List.find?_some h
  · intro h
    have hsome : (Level.ofName? name).isSome = true :=
      List.find?_isSome.mpr ⟨level, hall level, by simpa using h⟩
    obtain ⟨l, hl⟩ := Option.isSome_iff_exists.mp hsome
    have hname : l.settingName = Text.lowered name := by simpa using List.find?_some hl
    rw [hinj level l (h.trans hname.symm)]
    exact hl

theorem Level.isSome_ofName? {name : String} : (Level.ofName? name).isSome = true ↔
    Text.lowered name ∈ ["trace", "debug", "info", "warn", "error"] := by
  have hnames : Level.all.map Level.settingName = ["trace", "debug", "info", "warn", "error"] := rfl
  rw [ofName?, List.find?_isSome, ← hnames, List.mem_map]
  simp only [decide_eq_true_eq]

/-! ### Valid settings -/

namespace Settings

variable {s : Settings}

/-- **The settings that are valid.** -/
theorem validate_eq_ok : s.validate = .ok () ↔
    s.modelSource?.isSome = true ∧ Text.trimmed s.output ≠ "" ∧ s.requestTimeout ≠ 0 ∧
      Text.lowered s.logging.level ∈ ["trace", "debug", "info", "warn", "error"] := by
  have hsource : ¬ ((filled? s.modelFile).isNone &&
      ((filled? s.storeId).isNone || (filled? s.apiUrl).isNone)) = true ↔
        s.modelSource?.isSome = true := by
    rw [modelSource?]
    cases filled? s.modelFile <;> cases filled? s.apiUrl <;> cases filled? s.storeId <;> simp
  have hlevel : ¬ (Level.ofName? s.logging.level).isNone = true ↔
      (Level.ofName? s.logging.level).isSome = true := by
    cases Level.ofName? s.logging.level <;> simp
  rw [validate]
  dsimp only
  rw [throwBind_eq_ok, throwBind_eq_ok, throwBind_eq_ok, throw_eq_ok, hsource, hlevel,
    Level.isSome_ofName?, ne_eq, ne_eq]
  exact and_congr_right fun _ => and_congr_right fun _ => and_congr_right fun _ =>
    and_iff_left rfl

/-- Settings that are read from sources are valid. -/
theorem validate_of_ofSources {sources : List Table} (h : ofSources sources = .ok s) :
    s.validate = .ok () := by
  obtain ⟨t, -, h⟩ := bind_eq_ok.mp h
  obtain ⟨⟨⟩, hvalid, h⟩ := bind_eq_ok.mp h
  obtain rfl := Except.ok.inj h
  exact mapError_eq_ok.mp hvalid

/-- A source that is named is looked into. -/
theorem loadModel_ne_noSource (h : s.validate = .ok ()) (fs : Files) (server : Server) :
    s.loadModel fs server ≠ .error .noSource := by
  obtain ⟨source, hsource⟩ := Option.isSome_iff_exists.mp (validate_eq_ok.mp h).1
  rw [loadModel, hsource]
  cases source with
  | file path =>
    show Model.ofFile fs path ≠ _
    unfold Model.ofFile
    cases fs.readText path with
    | error e => nofun
    | ok content =>
      show (Model.ofContent content).mapError LoadError.model ≠ _
      cases Model.ofContent content <;> nofun
  | server apiUrl storeId modelId =>
    dsimp only
    cases ModelQuery.fetch ⟨apiUrl, storeId, modelId, s.apiToken⟩ server <;> nofun

/-- **Valid settings name a source and a level**, and only they do. Every run whose settings are read
looks for its model somewhere. -/
theorem validate_settles (s : Settings) :
    (s.validate = .ok () ↔ s.modelSource?.isSome = true ∧ Text.trimmed s.output ≠ "" ∧
      s.requestTimeout ≠ 0 ∧
      Text.lowered s.logging.level ∈ ["trace", "debug", "info", "warn", "error"]) ∧
    (s.validate = .ok () → ∃ source level, s.modelSource? = some source ∧ s.TakesFrom source ∧
      level.settingName = Text.lowered s.logging.level ∧
      Level.ofName? s.logging.level = some level ∧ Level.ofSetting s.logging.level = level) ∧
    (∀ env, ofEnvironment env = .ok s → ∀ fs server,
      s.loadModel fs server ≠ .error .noSource) ∧
    (∀ files env path, load files env path = .ok s → ∀ fs server,
      s.loadModel fs server ≠ .error .noSource) := by
  refine ⟨validate_eq_ok, ?_, fun env h => loadModel_ne_noSource (validate_of_ofSources h), ?_⟩
  · intro h
    obtain ⟨hsome, -, -, hlevel⟩ := validate_eq_ok.mp h
    obtain ⟨source, hsource⟩ := Option.isSome_iff_exists.mp hsome
    obtain ⟨level, hfound⟩ := Option.isSome_iff_exists.mp (Level.isSome_ofName?.mpr hlevel)
    refine ⟨source, level, hsource, modelSource?_eq_some.mp hsource,
      Level.ofName?_eq_some.mp hfound, hfound, ?_⟩
    rw [Level.ofSetting, hfound, Option.getD_some]
  · intro files env path h
    obtain ⟨table, -, h⟩ := bind_eq_ok.mp h
    exact loadModel_ne_noSource (validate_of_ofSources h)

/-- A path with blanks around it wins over a server, and a level may be in capitals. -/
theorem validate_settles_padded :
    let s : Settings := { Settings.default with
      modelFile := some " model.fga\n", apiUrl := some "http://localhost", storeId := some "s",
      logging := ⟨"WARN", false⟩ }
    s.validate = .ok () ∧ ∃ source level, s.modelSource? = some source ∧ s.TakesFrom source ∧
      level.settingName = Text.lowered s.logging.level ∧
      Level.ofName? s.logging.level = some level ∧ Level.ofSetting s.logging.level = level := by
  intro s
  have hvalid : s.validate = .ok () := by
    refine (validate_settles s).1.mpr ⟨?_, ?_, ?_, ?_⟩ <;> decide +kernel
  exact ⟨hvalid, (validate_settles s).2.1 hvalid⟩

end Settings

end Relata
