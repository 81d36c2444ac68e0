import Relata.Text.Lines

/-!
# Files

The files that a run sees: a tree of directories, and the working directory in it. A path starts
there, or at the root if a slash comes first.

## Main definitions

* `Entry`, `Files` — files and directories by their path.
* `FileError` — why an access fails, and the wording.
* `Files.locate` — the entry that a path leads to.
* `Files.relative` — a path as seen from the working directory.
* `Files.read`, `Files.readText` — the content of a file.
* `Files.createDirectories`, `Files.write`, `Files.writeCreating` — changes.
-/

namespace Relata

/-- What a path stands for. -/
inductive Entry
  | directory
  | file (content : ByteArray)
  deriving Inhabited

/-- A tree of files: the entries by the names on the way to them from the root. The directories on
the way to an entry are entries too. -/
structure Files where
  entries : List (List String × Entry)
  workingDirectory : List String
  deriving Inhabited

/-- Why an access fails. -/
inductive FileError
  | notFound
  | alreadyExists
  | notDirectory
  | isDirectory
  | nameTooLong
  /-- A path with a NUL character. -/
  | invalidName
  /-- A content that is not UTF-8. -/
  | notText
  deriving DecidableEq, Repr, Inhabited

/-- The wording of the error. -/
def FileError.message : FileError → String
  | notFound => "No such file or directory (os error 2)"
  | alreadyExists => "File exists (os error 17)"
  | notDirectory => "Not a directory (os error 20)"
  | isDirectory => "Is a directory (os error 21)"
  | nameTooLong => "File name too long (os error 36)"
  | invalidName => "file name contained an unexpected NUL byte"
  | notText => "stream did not contain valid UTF-8"

/-! ### Paths -/

namespace Path

/-- The parts of a path between its slashes. -/
def parts (path : String) : List String := path.splitOn "/"

/-- Whether a part of a path stays in the directory that it is looked up in. -/
def stays (part : String) : Bool := part = "" || part = "."

/-- Whether a path starts at the root. -/
def isAbsolute (path : String) : Bool := path.startsWith "/"

/-- The parts of a path that count for its parent: a dot counts only at the start. -/
def significant : List String → List String
  | [] => []
  | first :: rest => (if first = "" then [] else [first]) ++ rest.filter (!stays ·)

/-- The parts of the parent of a path. -/
def parent (path : String) : List String := (significant (parts path)).dropLast

/-- The most bytes that a name may have. -/
def maxNameSize : Nat := 255

end Path

namespace Files

/-- The entry with the given names. The directories on the way to the working directory are
there. -/
def entry? (fs : Files) (names : List String) : Option Entry :=
  if names.isPrefixOf fs.workingDirectory then some .directory else fs.entries.lookup names

/-- The entries with `e` at the given names. -/
def put (fs : Files) (names : List String) (e : Entry) : Files :=
  { fs with entries := (names, e) :: fs.entries.filter (·.1 != names) }

/-- The names of the directory that a path starts in. -/
def startOf (fs : Files) (path : String) : List String :=
  if Path.isAbsolute path then [] else fs.workingDirectory

/-! ### Looking up -/

/-- Follows parts of a path from an entry. Every part needs a directory before it. -/
def walk (fs : Files) (names : List String) : List String → Except FileError (List String)
  | [] => .ok names
  | part :: rest =>
    match fs.entry? names with
    | none => .error .notFound
    | some (.file _) => .error .notDirectory
    | some .directory =>
      if Path.stays part then walk fs names rest
      else if part = ".." then walk fs names.dropLast rest
      else if Path.maxNameSize < part.utf8ByteSize then .error .nameTooLong
      else match fs.entry? (names ++ [part]) with
        | none => .error .notFound
        | some _ => walk fs (names ++ [part]) rest

/-- The names of the entry that a path leads to. -/
def locate (fs : Files) (path : String) : Except FileError (List String) :=
  if path = "" then .error .notFound
  else if path.toList.contains '\x00' then .error .invalidName
  else fs.walk (fs.startOf path) (Path.parts path)

/-- Whether a path leads to an entry. -/
def exist (fs : Files) (path : String) : Bool := (fs.locate path).toOption.isSome

/-- The content of the file that a path leads to. -/
def read (fs : Files) (path : String) : Except FileError ByteArray := do
  match fs.entry? (← fs.locate path) with
  | none => .error .notFound
  | some .directory => .error .isDirectory
  | some (.file content) => .ok content

/-- Whether a path leads to a file. -/
def isFile (fs : Files) (path : String) : Bool := (fs.read path).toOption.isSome

/-- The text of the file that a path leads to. -/
def readText (fs : Files) (path : String) : Except FileError String := do
  match String.fromUTF8? (← fs.read path) with
  | some text => .ok text
  | none => .error .notText

/-- Leaves out what two lists of names have in common at their start. -/
def apart : List String → List String → List String × List String
  | a :: as, b :: bs => if a = b then apart as bs else (a :: as, b :: bs)
  | as, bs => (as, bs)

/-- A path as seen from the working directory, without parts that do not count. -/
def relative (fs : Files) (path : String) : String :=
  let names := fs.startOf path ++ (Path.parts path).filter (!Path.stays ·)
  let (base, rest) := apart fs.workingDirectory names
  "/".intercalate (base.map (fun _ => "..") ++ rest)

/-! ### Changes -/

/-- Follows parts of a path and creates the directories that are missing; `created` says whether
there were any so far. The changes up to an error stay. -/
def makeDirectories (fs : Files) (names : List String) (created : Bool) :
    List String → Except FileError Unit × Files
  | [] => (.ok (), fs)
  | part :: rest =>
    if Path.stays part then makeDirectories fs names created rest
    else if part = ".." then makeDirectories fs names.dropLast created rest
    else if Path.maxNameSize < part.utf8ByteSize then (.error .nameTooLong, fs)
    else
      let next := names ++ [part]
      match fs.entry? next with
      | some .directory => makeDirectories fs next created rest
      | some (.file _) =>
        (.error (if created || rest.isEmpty then .alreadyExists else .notDirectory), fs)
      | none => makeDirectories (fs.put next .directory) next true rest

/-- Makes sure that the parent of a path is a directory. -/
def createDirectories (fs : Files) (path : String) : Except FileError Unit × Files :=
  if path.toList.contains '\x00' then (.error .invalidName, fs)
  else fs.makeDirectories (fs.startOf path) false (Path.parent path)

/-- The names of the file that a path leads to, whether it exists or not. -/
def target (fs : Files) (path : String) : Except FileError (List String) := do
  if path = "" then throw .notFound
  if path.toList.contains '\x00' then throw .invalidName
  let parts := Path.parts path
  let kept := (parts.reverse.dropWhile (· = "")).reverse
  let names ← fs.walk (fs.startOf path) kept.dropLast
  match fs.entry? names, kept.getLast? with
  | some .directory, some last =>
    if kept.length < parts.length || Path.stays last || last = ".." then throw .isDirectory
    if Path.maxNameSize < last.utf8ByteSize then throw .nameTooLong
    match fs.entry? (names ++ [last]) with
    | some .directory => throw .isDirectory
    | _ => return names ++ [last]
  | some (.file _), _ => throw .notDirectory
  | _, _ => throw .notFound

/-- Stores a content at a path, in place of what was there. -/
def write (fs : Files) (path : String) (content : ByteArray) : Except FileError Unit × Files :=
  match fs.target path with
  | .ok names => (.ok (), fs.put names (.file content))
  | .error e => (.error e, fs)

/-- Stores a content at a path whose parent is created if it is missing. -/
def writeCreating (fs : Files) (path : String) (content : ByteArray) :
    Except FileError Unit × Files :=
  match fs.createDirectories path with
  | (.ok (), fs) => fs.write path content
  | (.error e, fs) => (.error e, fs)

/-- Whether two entries are the same. -/
def sameEntry : Entry → Entry → Bool
  | .directory, .directory => true
  | .file content, .file other => content.toList = other.toList
  | _, _ => false

/-- The entries that are new or different, the oldest change first. -/
def changesSince (before : Files) (fs : Files) : List (List String × Entry) :=
  (fs.entries.filter fun (names, e) => !(before.entry? names).any (sameEntry e)).reverse

end Files

end Relata
