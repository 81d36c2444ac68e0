/-!
# Similar words

How alike two words are: the share of the letters that both have at nearly the same place, less
the pairs of them that stand in another order.

## Main definitions

* `partner?`, `partners` — the letters of one word that have partners in another one.
* `Ratio`, `similarity` — the measure, between zero and one.
-/

namespace Relata

/-- A ratio of natural numbers. -/
structure Ratio where
  num : Nat
  den : Nat
  deriving DecidableEq, Repr, Inhabited

/-- Whether a ratio is greater than another one. -/
def Ratio.exceeds (x y : Ratio) : Bool := y.num * x.den < x.num * y.den

/-- How far apart partners in words of two lengths may stand. -/
def reach (a b : Nat) : Nat := max a b / 2 - 1

/-- The first free place with a letter between two places. -/
def partner? (letter : Char) (word : List Char) (taken : List Nat) (low high : Nat) : Option Nat :=
  (List.range word.length).find? fun j =>
    low ≤ j && j < high && word[j]? = some letter && !taken.contains j

/-- The places of partners for the letters of a word, from the letter at place `i` on. -/
def partners (word : List Char) (range : Nat) : Nat → List Nat → List Char → List (Char × Nat)
  | _, _, [] => []
  | i, taken, letter :: rest =>
    match partner? letter word taken (i - range) (i + range + 1) with
    | some j => (letter, j) :: partners word range (i + 1) (j :: taken) rest
    | none => partners word range (i + 1) taken rest

/-- How alike two words are. -/
def similarity (a b : String) : Ratio :=
  let xs := a.toList
  let ys := b.toList
  let pairs := partners ys (reach xs.length ys.length) 0 [] xs
  let m := pairs.length
  let other := (pairs.map (·.2)).mergeSort.filterMap (ys[·]?)
  let crossed := ((pairs.map (·.1)).zip other |>.filter fun p => p.1 ≠ p.2).length / 2
  if m = 0 then ⟨0, 1⟩
  else
    let lengths := xs.length * ys.length
    ⟨m * m * xs.length + m * m * ys.length + (m - crossed) * lengths, 3 * m * lengths⟩

end Relata
