import Relata.Text.Alphanumeric

/-!
# Lexemes of the model language

A parser takes a text and gives what it read with the rest of the text, or nothing if the text does
not start with what it reads. Parsers that can read nothing at all always succeed and are plain
functions from a text to the rest.

## Main definitions

* `Parser` — a parser.
* `spaces`, `spaces₁`, `layout` — what may stand between lexemes.
* `expect` — a fixed text.
* `identifier` — a name that is not a keyword.
* `many`, `separated` — repetition.

## Main results

* `layout_comment` — layout skips a comment up to the end of its line.
-/

namespace Relata.Language

/-- Reads an `α` at the start of a text and gives the rest. -/
abbrev Parser (α : Type) := List Char → Option (α × List Char)

/-! ### Between lexemes -/

/-- A blank inside a line. -/
def isSpace (c : Char) : Bool := c = ' ' || c = '\t'

/-- A blank or a line end. -/
def isSpacing (c : Char) : Bool := c = ' ' || c = '\t' || c = '\r' || c = '\n'

/-- A character that ends a comment. -/
def isLineEnd (c : Char) : Bool := c = '\n' || c = '\r'

/-- Skips blanks inside a line. -/
def spaces (s : List Char) : List Char := s.dropWhile isSpace

/-- Skips blanks inside a line, of which there must be one. -/
def spaces₁ : List Char → Option (List Char)
  | c :: s => if isSpace c then some (spaces s) else none
  | [] => none

/-- A comment: from `#` to the end of its line. -/
def comment : List Char → Option (List Char)
  | '#' :: s => some (s.dropWhile (!isLineEnd ·))
  | _ => none

/-- Skips blanks, line ends and comments; `inComment` says that the text starts in a comment. -/
def skipLayout : Bool → List Char → List Char
  | _, [] => []
  | true, c :: s => skipLayout (!isLineEnd c) s
  | false, c :: s =>
    if isSpacing c then skipLayout false s
    else if c = '#' then skipLayout true s
    else c :: s

/-- Skips blanks, line ends and comments. -/
def layout (s : List Char) : List Char := skipLayout false s

@[simp] theorem layout_nil : layout [] = [] := rfl

theorem isSpacing_of_isLineEnd {c : Char} (h : isLineEnd c = true) : isSpacing c = true := by
  simp only [isLineEnd, isSpacing, Bool.or_eq_true, decide_eq_true_eq] at h ⊢
  rcases h with h | h
  · exact Or.inr h
  · exact Or.inl (Or.inr h)

/-- Inside a comment nothing counts but the end of its line. -/
theorem skipLayout_true (s : List Char) :
    skipLayout true s = layout (s.dropWhile (!isLineEnd ·)) := by
  induction s with
  | nil => rfl
  | cons c s ih =>
    by_cases h : isLineEnd c = true
    · simp [skipLayout, h, isSpacing_of_isLineEnd h, layout]
    · simp only [Bool.not_eq_true] at h
      simp [skipLayout, h, ih]

/-- Layout skips a comment up to the end of its line. -/
theorem layout_comment {s rest : List Char} (h : comment s = some rest) :
    layout s = layout rest := by
  unfold comment at h
  split at h
  · next s =>
    obtain rfl : s.dropWhile (!isLineEnd ·) = rest := by simpa using h
    exact skipLayout_true s
  · simp at h

/-! ### Lexemes -/

/-- Reads the fixed text `word`. What follows it does not matter. -/
def expect : List Char → List Char → Option (List Char)
  | [], s => some s
  | _ :: _, [] => none
  | w :: word, c :: s => if c = w then expect word s else none

/-- A character of a name. -/
def isNameChar (c : Char) : Bool :=
  Text.isAlphanumeric c || c = '_' || c = '-' || c = '.'

/-- The words that are no names. -/
def keywords : List String :=
  ["model", "schema", "type", "relations", "define", "condition", "with", "or", "and", "but",
    "not", "from"]

/-- Reads as many characters of a class as there are, of which there must be one. -/
def chars₁ (p : Char → Bool) : Parser (List Char) := fun s =>
  match s.takeWhile p with
  | [] => none
  | c :: cs => some (c :: cs, s.dropWhile p)

/-- Reads a name: all name characters there are, unless they spell a keyword. -/
def identifier : Parser String := fun s => do
  let (cs, rest) ← chars₁ isNameChar s
  if keywords.contains (String.ofList cs) then none else some (String.ofList cs, rest)

/-! ### Repetition -/

/-- Reads with `p` as often as it succeeds and takes something off the text. -/
def many {α : Type} (p : Parser α) (s : List Char) : List α × List Char :=
  match p s with
  | none => ([], s)
  | some (a, rest) =>
    if rest.length < s.length then
      let (as, last) := many p rest
      (a :: as, last)
    else ([], s)
  termination_by s.length

/-- Reads `p` once, and as often again as a separator and another `p` follow. -/
def separated {α : Type} (sep : List Char → Option (List Char)) (p : Parser α) :
    Parser (List α) := fun s => do
  let (a, rest) ← p s
  let (as, last) := many (fun t => sep t >>= p) rest
  return (a :: as, last)

/-- Tries `p`, and `q` where `p` fails. -/
def orElse {α : Type} (p q : Parser α) : Parser α := fun s => (p s).or (q s)

/-- Reads `p` if it is there. -/
def optionally {α : Type} (p : Parser α) (s : List Char) : Option α × List Char :=
  match p s with
  | some (a, rest) => (some a, rest)
  | none => (none, s)

end Relata.Language
