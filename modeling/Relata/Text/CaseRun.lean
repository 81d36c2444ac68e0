/-!
# Runs of letters with a case

Upper and lower case of most letters lie a fixed distance apart, for whole runs of letters.

## Main definitions

* `CaseRun` — a run; `CaseRun.map` takes a letter of one of several runs to its other case.
-/

namespace Relata.Text

/-- Characters `first`, `first + step`, …, `last`, each with its other case `shift` code points
on. -/
structure CaseRun where
  first : Nat
  last : Nat
  step : Nat
  shift : Int
  deriving DecidableEq, Repr, Inhabited

namespace CaseRun

/-- Whether the character with code point `n` belongs to the run. -/
def contains (run : CaseRun) (n : Nat) : Bool :=
  run.first ≤ n && n ≤ run.last && (n - run.first) % run.step == 0

/-- The other case of a letter of one of the runs; any other character itself. -/
def map (runs : List CaseRun) (c : Char) : Char :=
  match runs.find? (·.contains c.toNat) with
  | some run => Char.ofNat (c.toNat + run.shift).toNat
  | none => c

end CaseRun

end Relata.Text
