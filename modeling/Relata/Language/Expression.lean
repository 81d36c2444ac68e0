import Relata.Language.Lexeme
import Relata.Model.Basic

/-!
# Expressions of the model language

How a relation is defined: operands joined by `and`, by `or`, and at most one `but not` at the end.
`and` binds tightest and `but not` takes everything before it; parentheses group.

## Main definitions

* `subjectReference`, `typeRestriction` — who may be assigned.
* `operand`, `intersectionLevel`, `unionLevel`, `expressionWith` — the levels of binding, each in
  terms of what reads an expression inside parentheses.
* `expression` — an expression. In a text of `n` characters parentheses nest at most `n` deep.
-/

namespace Relata.Language

/-! ### Operands -/

/-- What of the type is meant: `:*`, `#` and a relation, or nothing. -/
def subjectKind (s : List Char) : SubjectKind × List Char :=
  match s with
  | ':' :: '*' :: rest => (.wildcard, rest)
  | '#' :: rest => match identifier rest with
    | some (relation, rest) => (.userset relation, rest)
    | none => (.object, s)
  | _ => (.object, s)

/-- The condition of a subject: `with` and a name. -/
def withCondition : Parser String := fun s => do
  let s ← spaces₁ s
  let s ← expect ['w', 'i', 't', 'h'] s
  let s ← spaces₁ s
  identifier s

/-- A subject that may be assigned. -/
def subjectReference : Parser Subject := fun s => do
  let (typeName, s) ← identifier s
  let (kind, s) := subjectKind s
  let (condition, s) := optionally withCondition s
  return (⟨typeName, kind, condition⟩, s)

/-- A comma with blanks around it. -/
def comma (s : List Char) : Option (List Char) := do
  return spaces (← expect [','] (spaces s))

/-- A list of subjects in brackets. -/
def typeRestriction : Parser Rule := fun s => do
  let s ← expect ['['] s
  let (subjects, s) ← separated comma subjectReference (spaces s)
  let s ← expect [']'] (spaces s)
  return (.direct subjects, s)

/-- A relation of the same object. -/
def computedUserset : Parser Rule := fun s => do
  let (name, s) ← identifier s
  return (.computed name, s)

/-- A relation of related objects: the relation, `from`, and the tupleset. -/
def tupleToUserset : Parser Rule := fun s => do
  let (computed, s) ← identifier s
  let s ← spaces₁ s
  let s ← expect ['f', 'r', 'o', 'm'] s
  let s ← spaces₁ s
  let (tupleset, s) ← identifier s
  return (.fromTupleset tupleset computed, s)

/-- An expression in parentheses. -/
def parenthesized (inner : Parser Rule) : Parser Rule := fun s => do
  let s ← expect ['('] s
  let (e, s) ← inner (spaces s)
  let s ← expect [')'] (spaces s)
  return (e, s)

/-- An operand. -/
def operand (inner : Parser Rule) : Parser Rule :=
  orElse typeRestriction (orElse (parenthesized inner) (orElse tupleToUserset computedUserset))

/-! ### Levels of binding -/

/-- Another operand behind an operator that may follow its left side without a blank. -/
def behind (word : List Char) (p : Parser Rule) : Parser Rule := fun s => do
  let s ← expect word (spaces s)
  let s ← spaces₁ s
  p s

/-- One or more of `p` with the operator `word` between them; a single one stays as it is. -/
def level (word : List Char) (join : List Rule → Rule) (p : Parser Rule) :
    Parser Rule := fun s => do
  let (first, s) ← p s
  match many (behind word p) s with
  | ([], s) => return (first, s)
  | (rest, s) => return (join (first :: rest), s)

/-- Operands joined by `and`. -/
def intersectionLevel (inner : Parser Rule) : Parser Rule :=
  level ['a', 'n', 'd'] .intersection (operand inner)

/-- Intersections joined by `or`. -/
def unionLevel (inner : Parser Rule) : Parser Rule :=
  level ['o', 'r'] .union (intersectionLevel inner)

/-- The operand behind `but not`. -/
def butNot (inner : Parser Rule) : Parser Rule := fun s => do
  let s ← spaces₁ s
  let s ← expect ['b', 'u', 't'] s
  let s ← spaces₁ s
  let s ← expect ['n', 'o', 't'] s
  let s ← spaces₁ s
  operand inner s

/-- A union, less the operand behind `but not` if there is one. -/
def expressionWith (inner : Parser Rule) : Parser Rule := fun s => do
  let (base, s) ← unionLevel inner s
  match optionally (butNot inner) s with
  | (some subtract, s) => return (.difference base subtract, s)
  | (none, s) => return (base, s)

/-- An expression whose parentheses nest less than `depth` deep. -/
def expressionWithin : Nat → Parser Rule
  | 0 => fun _ => none
  | depth + 1 => expressionWith (expressionWithin depth)

/-- An expression. -/
def expression : Parser Rule := fun s => expressionWithin (s.length + 1) s

end Relata.Language
