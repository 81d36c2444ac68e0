import Relata.Files
import Relata.Module.Emission

/-!
# Writing a module

A module is written to one file, whose parent is created if it is missing. Nothing else changes.

## Main definitions

* `WriteError` — why a module is not written.
* `GeneratedModule.save` — the files with the module in them.
-/

namespace Relata

/-- Why a module is not written. -/
structure WriteError where
  path : String
  error : FileError
  deriving DecidableEq, Repr, Inhabited

/-- The wording of the error. -/
def WriteError.message (e : WriteError) : String :=
  "failed to write " ++ e.path ++ ": " ++ e.error.message

/-- Writes a module to a path. The files are given in any case, since directories that have been
created stay. -/
def GeneratedModule.save (g : GeneratedModule) (fs : Files) (path : String) :
    Except WriteError Unit × Files :=
  match fs.writeCreating path g.source.toUTF8 with
  | (.ok (), fs) => (.ok (), fs)
  | (.error e, fs) => (.error ⟨path, e⟩, fs)

end Relata
