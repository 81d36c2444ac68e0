import Mathlib.Data.List.DropRight
import Mathlib.Data.String.Basic
import Relata.Files
import Relata.Proofs.Result

/-!
# Changes of a tree of files

A write changes one entry, and what is created before it are directories that were missing. An
entry that was there stays as it is, so each path that led to a directory still does, and the path
that was written leads to what was written.

## Main definitions

* `Path.follow` — where the parts of a path lead.
* `Files.IsOnWay` — the directories on the way to the parent of a path.
* `Files.Adds` — a tree with more directories.
* `Files.Stores` — a tree with a text at a path.
* `Files.holding` — a tree with one file.

## Main results

* `Path.parts_eq` — the parts of a path, by its characters.
* `Files.adds_createDirectories` — **only missing directories are created**, also by a failure.
* `Files.target_eq_ok` — which path can be written.
* `Files.stores_of_writeCreating` — **a text that is written is there, and all else is as before.**
-/

namespace Relata

theorem fromUTF8?_toUTF8 (s : String) : String.fromUTF8? s.toUTF8 = some s := by
  rw [String.fromUTF8?, String.toUTF8, dif_pos s.isValidUTF8]
  rfl

/-! ### Parts of paths -/

section Parts

open String

/-- With `found` behind it and `part` begun, the search for slashes goes on in `rest`. -/
theorem splitOnAux_slash (taken part rest : List Char) (found : List String) :
    splitOnAux (ofList (taken ++ part ++ rest)) "/" ⟨utf8Len taken⟩
        ⟨utf8Len taken + utf8Len part⟩ 0 found =
      found.reverse ++ (List.splitOnPPrepend (· == '/') rest part.reverse).map ofList := by
  induction rest generalizing taken part found with
  | nil =>
    have hend := atEnd_of_valid (taken ++ part) []
    rw [utf8Len_append] at hend
    rw [splitOnAux, if_pos (hend.mpr rfl)]
    simp only [extract_of_valid taken part []]
    simp
  | cons c rest ih =>
    have hend := atEnd_of_valid (taken ++ part) (c :: rest)
    have hget := get_of_valid (taken ++ part) (c :: rest)
    have hnext := next_of_valid (taken ++ part) c rest
    rw [utf8Len_append] at hend hget hnext
    have hslash : Pos.Raw.get "/" 0 = '/' := by decide
    rw [splitOnAux, if_neg (mt hend.mp (List.cons_ne_nil c rest)), hget, hslash, List.headD_cons,
      hnext, List.splitOnPPrepend_cons_eq_if]
    split
    · next hc =>
      -- the slash is the whole separator, so the part ends in front of it
      obtain rfl : c = '/' := beq_iff_eq.mp hc
      have hstep : Pos.Raw.next "/" 0 = ⟨1⟩ := by decide
      have hlast : Pos.Raw.atEnd "/" ⟨1⟩ = true := by decide
      have hback : (⟨utf8Len taken + utf8Len part + '/'.utf8Size⟩ : Pos.Raw).unoffsetBy ⟨1⟩ =
          ⟨utf8Len taken + utf8Len part⟩ := rfl
      have h := ih (taken ++ part ++ ['/']) [] (ofList part :: found)
      simp only [hstep, hlast, hback, if_true, extract_of_valid taken part ('/' :: rest)]
      simpa [Nat.add_assoc, -ofList_append] using h
    · next hc =>
      have h := ih taken (part ++ [c]) found
      have hback : (⟨utf8Len taken + utf8Len part⟩ : Pos.Raw).unoffsetBy 0 =
          ⟨utf8Len taken + utf8Len part⟩ := rfl
      rw [hback, hnext]
      simpa [Nat.add_assoc, -ofList_append] using h

/-- The parts of a path are its characters, split at the slashes. -/
theorem Path.parts_eq (path : String) :
    parts path = (path.toList.splitOn '/').map ofList := by
  have h := splitOnAux_slash [] [] path.toList []
  rw [parts, String.splitOn, if_neg (by decide), List.splitOn, List.splitOnP_eq_splitOnPPrepend]
  simpa using h

end Parts

/-! ### Where paths lead -/

/-- Where parts of a path lead from given names, by the names alone. -/
def Path.follow : List String → List String → List String
  | names, [] => names
  | names, part :: rest =>
    if stays part then follow names rest
    else if part = ".." then follow names.dropLast rest
    else follow (names ++ [part]) rest

namespace Files

variable {fs fs' fs'' : Files} {names other parts : List String} {path : String}

/-! ### Entries -/

theorem lookup_filter_ne {entries : List (List String × Entry)} (h : other ≠ names) :
    (entries.filter (·.1 != names)).lookup other = entries.lookup other := by
  induction entries with
  | nil => rfl
  | cons e entries ih =>
    obtain ⟨here, entry⟩ := e
    by_cases hhere : here = names
    · subst hhere
      rw [List.filter_cons_of_neg (by simp), ih, List.lookup_cons, beq_false_of_ne h]
    · rw [List.filter_cons_of_pos (by simpa using hhere), List.lookup_cons, List.lookup_cons, ih]

/-- Other entries stay as they are. -/
theorem entry?_put_of_ne (fs : Files) (e : Entry) (h : other ≠ names) :
    entry? (fs.put names e) other = fs.entry? other := by
  rw [ entry?, entry?, put, List.lookup_cons, beq_false_of_ne h]
  dsimp only
  rw [lookup_filter_ne h]

/-- An entry is there where it was put, unless a directory was. -/
theorem entry?_put_self (e : Entry) (h : fs.entry? names ≠ some .directory) :
    entry? (fs.put names e) names = some e := by
  rw [ entry?] at h
  rw [ entry?, put]
  split
  · next hpre =>
    rw [if_pos hpre] at h
    contradiction
  · rw [List.lookup_cons, beq_self_eq_true]

/-! ### Trees with more directories -/

/-- A tree with more directories, all of them among those that `P` allows. The entries that were
there are as before. -/
structure Adds (P : List String → Prop) (fs fs' : Files) : Prop where
  workingDirectory : fs'.workingDirectory = fs.workingDirectory
  entry : ∀ names, fs'.entry? names = fs.entry? names ∨
    fs.entry? names = none ∧ fs'.entry? names = some .directory ∧ P names

section Added

variable {P Q : List String → Prop}

theorem Adds.refl (P : List String → Prop) (fs : Files) : Adds P fs fs :=
  ⟨rfl, fun _ => Or.inl rfl⟩

/-- A missing directory is created. -/
theorem Adds.put (h : fs.entry? names = none) (hP : P names) :
    Adds P fs (fs.put names .directory) := by
  refine ⟨rfl, fun other => ?_⟩
  by_cases hne : other = names
  · subst hne
    exact Or.inr ⟨h, entry?_put_self _ (by simp [h]), hP⟩
  · exact Or.inl (entry?_put_of_ne fs _ hne)

theorem Adds.trans (h : Adds P fs fs') (h' : Adds P fs' fs'') : Adds P fs fs'' := by
  refine ⟨h'.workingDirectory.trans h.workingDirectory, fun names => ?_⟩
  rcases h.entry names with hsame | ⟨hnone, hdir, hP⟩
  · rw [← hsame]
    exact h'.entry names
  · rcases h'.entry names with hsame | ⟨hnone', -, -⟩
    · exact Or.inr ⟨hnone, hsame.trans hdir, hP⟩
    · rw [hdir] at hnone'
      contradiction

theorem Adds.mono (h : Adds P fs fs') (hPQ : ∀ names, P names → Q names) : Adds Q fs fs' :=
  ⟨h.workingDirectory, fun names =>
    (h.entry names).imp_right fun ⟨hnone, hdir, hP⟩ => ⟨hnone, hdir, hPQ names hP⟩⟩

/-- An entry that was there is as before. -/
theorem Adds.entry_eq (h : Adds P fs fs') {e : Entry} (he : fs.entry? names = some e) :
    fs'.entry? names = some e := by
  rcases h.entry names with hsame | ⟨hnone, -, -⟩
  · exact hsame.trans he
  · rw [hnone] at he
    contradiction

end Added

/-! ### Creating directories -/

/-- Parts of a path pass `names` on their way from `start`. -/
def Passes (start parts names : List String) : Prop :=
  ∃ taken, taken <+: parts ∧ names = Path.follow start taken

/-- The directories on the way to the parent of a path. -/
def IsOnWay (fs : Files) (path : String) (names : List String) : Prop :=
  Passes (fs.startOf path) (Path.parent path) names

/-- What is passed behind the first part is passed. -/
theorem Passes.cons {start next : List String} {part : String}
    (h : ∀ taken, Path.follow start (part :: taken) = Path.follow next taken)
    (hpass : Passes next parts names) : Passes start (part :: parts) names := by
  obtain ⟨taken, hprefix, rfl⟩ := hpass
  exact ⟨part :: taken, List.cons_prefix_cons.mpr ⟨rfl, hprefix⟩, (h taken).symm⟩

/-- Directories are created on the way only, and only where nothing is. -/
theorem adds_makeDirectories (fs : Files) (start : List String) (created : Bool)
    (parts : List String) :
    Adds (Passes start parts) fs (fs.makeDirectories start created parts).2 := by
  induction parts generalizing fs start created with
  | nil => exact .refl _ fs
  | cons part parts ih =>
    rw [makeDirectories]
    -- a name leads on as it does in the walk, whether something is created for it or not
    by_cases hstays : Path.stays part = true
    · have hstep : ∀ taken, Path.follow start (part :: taken) = Path.follow start taken :=
        fun taken => by rw [Path.follow, if_pos hstays]
      rw [if_pos hstays]
      exact (ih fs start created).mono fun _ => Passes.cons hstep
    rw [if_neg hstays]
    by_cases hup : part = ".."
    · have hstep : ∀ taken, Path.follow start (part :: taken) = Path.follow start.dropLast taken :=
        fun taken => by rw [Path.follow, if_neg hstays, if_pos hup]
      rw [if_pos hup]
      exact (ih fs start.dropLast created).mono fun _ => Passes.cons hstep
    rw [if_neg hup]
    have hstep : ∀ taken, Path.follow start (part :: taken) = Path.follow (start ++ [part]) taken :=
      fun taken => by rw [Path.follow, if_neg hstays, if_neg hup]
    split
    · exact .refl _ fs
    dsimp only
    split
    · exact (ih fs _ created).mono fun _ => Passes.cons hstep
    · exact .refl _ fs
    · next hnone =>
      have hself : Passes start (part :: parts) (start ++ [part]) :=
        .cons hstep ⟨[], List.nil_prefix, rfl⟩
      exact (Adds.put hnone hself).trans ((ih _ _ true).mono fun _ => Passes.cons hstep)

/-- **Only missing directories are created**, whether all of them can be or not. -/
theorem adds_createDirectories (fs : Files) (path : String) :
    Adds (fs.IsOnWay path) fs (fs.createDirectories path).2 := by
  rw [createDirectories]
  split
  · exact .refl _ fs
  · exact adds_makeDirectories fs _ _ _

/-! ### Following a path -/

theorem walk_append (fs : Files) (start before parts : List String) :
    fs.walk start (before ++ parts) = fs.walk start before >>= fun names => fs.walk names parts := by
  induction before generalizing start with
  | nil => rfl
  | cons part before ih =>
    rw [List.cons_append, walk, walk]
    cases fs.entry? start with
    | none => rfl
    | some e =>
      cases e with
      | file content => rfl
      | directory =>
        dsimp only
        split
        · exact ih start
        split
        · exact ih start.dropLast
        split
        · rfl
        cases fs.entry? (start ++ [part]) with
        | none => rfl
        | some e' => exact ih (start ++ [part])

/-- A path leads to where it led, if directories stay directories and nothing is removed. -/
theorem walk_mono (hdir : ∀ names, fs.entry? names = some .directory →
      fs'.entry? names = some .directory)
    (hsome : ∀ names, fs.entry? names ≠ none → fs'.entry? names ≠ none) {start : List String}
    (h : fs.walk start parts = .ok names) : fs'.walk start parts = .ok names := by
  -- each test on the way turns out as it did: what was there is there, directories as directories
  induction parts generalizing start with
  | nil => exact h
  | cons part parts ih =>
    rw [walk] at h
    split at h
    · contradiction
    · contradiction
    · next hstart =>
      rw [walk, hdir start hstart]
      dsimp only
      split at h
      · next hstays =>
        rw [if_pos hstays]
        exact ih h
      next hstays =>
      rw [if_neg hstays]
      split at h
      · next hup =>
        rw [if_pos hup]
        exact ih h
      next hup =>
      rw [if_neg hup]
      split at h
      · contradiction
      next hsize =>
      rw [if_neg hsize]
      split at h
      · contradiction
      · next e hnext =>
        have hne : fs.entry? (start ++ [part]) ≠ none := by simp [hnext]
        obtain ⟨e', hnext'⟩ := Option.ne_none_iff_exists'.mp (hsome _ hne)
        rw [hnext']
        exact ih h

/-! ### Writing -/

/-- A path that can be written is a name in a directory, and no directory has the name. -/
theorem target_eq_ok (h : fs.target path = .ok names) :
    path ≠ "" ∧ path.toList.contains '\x00' = false ∧ ∃ before last directory,
      Path.parts path = before ++ [last] ∧ fs.walk (fs.startOf path) before = .ok directory ∧
        fs.entry? directory = some .directory ∧ Path.stays last = false ∧ last ≠ ".." ∧
          last.utf8ByteSize ≤ Path.maxNameSize ∧ names = directory ++ [last] ∧
            fs.entry? names ≠ some .directory := by
  rw [target] at h
  simp only [throwBind_eq_ok] at h
  obtain ⟨hempty, hnul, h⟩ := h
  obtain ⟨directory, hwalk, h⟩ := bind_eq_ok.mp h
  split at h
  · next last hdir hlast =>
    simp only [throwBind_eq_ok] at h
    obtain ⟨hname, hsize, h⟩ := h
    simp only [Bool.or_eq_true, decide_eq_true_eq, not_or, Bool.not_eq_true, Nat.not_lt] at hname
    obtain ⟨⟨hlength, hstays⟩, hup⟩ := hname
    -- a path with no slash at its end keeps all of its parts
    have hkept : (Path.parts path).rdropWhile (· = "") = Path.parts path :=
      (List.rdropWhile_prefix _ _).eq_of_length_le hlength
    rw [← List.rdropWhile, hkept] at hwalk hlast
    obtain ⟨before, hparts⟩ := List.getLast?_eq_some_iff.mp hlast
    rw [hparts, List.dropLast_concat] at hwalk
    split at h
    · contradiction
    · next hentry =>
      obtain rfl := Except.ok.inj h
      exact ⟨hempty, Bool.not_eq_true _ ▸ hnul, before, last, directory, hparts, hwalk, hdir, hstays,
        hup, Nat.not_lt.mp hsize, rfl, hentry⟩
  · contradiction
  · contradiction

/-- A text at a path. The entry of the path was no directory; what else is new are directories on
the way to it that were missing. -/
structure Stores (fs fs' : Files) (path text : String) : Prop where
  workingDirectory : fs'.workingDirectory = fs.workingDirectory
  readText : fs'.readText path = .ok text
  entry : ∃ names, fs'.locate path = .ok names ∧ fs.entry? names ≠ some .directory ∧
    ∀ other ≠ names, fs'.entry? other = fs.entry? other ∨
      fs.entry? other = none ∧ fs'.entry? other = some .directory ∧ fs.IsOnWay path other

/-- What is written at a path is found there. -/
theorem locate_put (h : fs.target path = .ok names) (content : ByteArray) :
    (fs.put names (.file content)).locate path = .ok names := by
  obtain ⟨hempty, hnul, before, last, directory, hparts, hwalk, hdir, hstays, hup, hsize, rfl,
    hnames⟩ := target_eq_ok h
  set fs' := fs.put (directory ++ [last]) (.file content)
  have hself : fs'.entry? (directory ++ [last]) = some (.file content) := entry?_put_self _ hnames
  have hkept : ∀ names, fs.entry? names = some .directory → fs'.entry? names = some .directory := by
    intro names hn
    rwa [entry?_put_of_ne fs]
    rintro rfl
    exact hnames hn
  have hsome : ∀ names, fs.entry? names ≠ none → fs'.entry? names ≠ none := by
    intro names hn
    by_cases heq : names = directory ++ [last]
    · simp [heq, hself]
    · rwa [entry?_put_of_ne fs _ heq]
  rw [locate, if_neg hempty, hnul, if_neg Bool.false_ne_true, hparts, walk_append]
  rw [show fs'.startOf path = fs.startOf path from rfl, walk_mono hkept hsome hwalk]
  show fs'.walk directory [last] = _
  simp [walk, hkept directory hdir, hstays, hup, Nat.not_lt.mpr hsize, hself]

/-- **A text that is written is there, and all else is as before.** -/
theorem stores_of_writeCreating {text : String}
    (h : fs.writeCreating path text.toUTF8 = (.ok (), fs')) : fs.Stores fs' path text := by
  have hadds := adds_createDirectories fs path
  rw [writeCreating] at h
  split at h
  · next between hcreate =>
    rw [hcreate] at hadds
    rw [write] at h
    split at h
    · next names hnames =>
      obtain ⟨-, rfl⟩ := Prod.mk.inj h
      obtain ⟨-, -, before, last, directory, -, -, -, -, -, -, rfl, hfile⟩ := target_eq_ok hnames
      have hlocate := locate_put hnames text.toUTF8
      have hself : entry? (between.put _ (.file text.toUTF8)) _ = _ :=
        entry?_put_self (.file text.toUTF8) hfile
      refine ⟨hadds.workingDirectory, ?_, _, hlocate, fun hdir => ?_, fun other hne => ?_⟩
      · rw [readText, read, hlocate]
        simp only [bind, Except.bind, hself, fromUTF8?_toUTF8]
      · exact hfile (hadds.entry_eq hdir)
      · rw [entry?_put_of_ne between _ hne]
        exact hadds.entry other
    · nomatch h
  · nomatch h

/-- **A write that fails changes no entry**: what it leaves behind are directories that were
missing. -/
theorem adds_of_writeCreating {content : ByteArray} {e : FileError}
    (h : fs.writeCreating path content = (.error e, fs')) : Adds (fs.IsOnWay path) fs fs' := by
  have hadds := adds_createDirectories fs path
  rw [writeCreating] at h
  split at h
  · next between hcreate =>
    rw [hcreate] at hadds
    rw [write] at h
    split at h
    · nomatch h
    · obtain ⟨-, rfl⟩ := Prod.mk.inj h
      exact hadds
  · next hcreate =>
    rw [hcreate] at hadds
    obtain ⟨-, rfl⟩ := Prod.mk.inj h
    exact hadds

/-! ### A tree with one file -/

/-- A tree with one file, which is named `m`. -/
def holding (content : String) : Files := ⟨[(["m"], .file content.toUTF8)], []⟩

theorem parts_m : Path.parts "m" = ["m"] := by
  rw [Path.parts_eq]
  decide +kernel

theorem startOf_holding (content path : String) : (holding content).startOf path = [] := ite_self _

theorem locate_holding (content : String) : (holding content).locate "m" = .ok ["m"] := by
  have hname : "m".toList = ['m'] := String.toList_ofList
  rw [locate, if_neg (by decide), hname, parts_m, startOf_holding, if_neg (by decide)]
  rfl

theorem read_holding (content : String) : (holding content).read "m" = .ok content.toUTF8 := by
  rw [read, locate_holding]
  rfl

theorem readText_holding (content : String) :
    (holding content).readText "m" = .ok content := by
  rw [readText, read_holding]
  simp only [bind, Except.bind, fromUTF8?_toUTF8]

/-- A directory that is missing is created for a file in it. -/
theorem writeCreating_holding (content : String) (text : ByteArray) :
    (holding content).writeCreating "types/fga.ts" text =
      (.ok (),
        ((holding content).put ["types"] .directory).put ["types", "fga.ts"] (.file text)) := by
  have hparts : Path.parts "types/fga.ts" = ["types", "fga.ts"] := by
    rw [Path.parts_eq]
    decide +kernel
  have hcreate : (holding content).createDirectories "types/fga.ts" =
      (.ok (), (holding content).put ["types"] .directory) := by
    rw [createDirectories, Path.parent, hparts, startOf_holding]
    rfl
  have hstart : ((holding content).put ["types"] .directory).startOf "types/fga.ts" = [] :=
    ite_self _
  have htarget : ((holding content).put ["types"] .directory).target "types/fga.ts" =
      .ok ["types", "fga.ts"] := by
    rw [target, hparts, hstart]
    rfl
  simp only [writeCreating, hcreate, write, htarget]

/-- No directory is created in the place of the file. -/
theorem writeCreating_holding_below (content : String) (text : ByteArray) :
    (holding content).writeCreating "m/fga.ts" text = (.error .alreadyExists, holding content) := by
  have hparts : Path.parts "m/fga.ts" = ["m", "fga.ts"] := by
    rw [Path.parts_eq]
    decide +kernel
  have hcreate : (holding content).createDirectories "m/fga.ts" =
      (.error .alreadyExists, holding content) := by
    rw [createDirectories, Path.parent, hparts, startOf_holding]
    rfl
  simp only [writeCreating, hcreate]

end Files

end Relata
