import Relata.Language.Expression
import Relata.Text.Blank

/-!
# Definitions of the model language

Types with their relations, conditions with their parameters, and the header. A definition that
fails half way is not read at all, but a type whose relation fails is read up to that relation.

## Main definitions

* `relationDefinition`, `typeDefinition` — relations and types.
* `bracedBlock`, `conditionDefinition` — conditions.
* `modelHeader`, `model` — the header and a whole model.
-/

namespace Relata.Language

/-! ### Types -/

/-- A relation: `define`, its name, a colon and an expression. -/
def relationDefinition : Parser Relation := fun s => do
  let s ← expect ['d', 'e', 'f', 'i', 'n', 'e'] (spaces s)
  let s ← spaces₁ s
  let (name, s) ← identifier s
  let s ← expect [':'] (spaces s)
  let (rule, s) ← expression (spaces s)
  return (⟨name, rule⟩, s)

/-- The same parser with the layout behind it. -/
def withLayout {α : Type} (p : Parser α) : Parser α := fun s => do
  let (a, s) ← p s
  return (a, layout s)

/-- The relations of a type, behind the word `relations`. -/
def relationsSection : Parser (List Relation) := fun s => do
  let s ← expect ['r', 'e', 'l', 'a', 't', 'i', 'o', 'n', 's'] s
  return many (withLayout relationDefinition) (layout s)

/-- A type: `type`, its name and, if there are any, its relations. -/
def typeDefinition : Parser TypeDefinition := fun s => do
  let s ← expect ['t', 'y', 'p', 'e'] s
  let s ← spaces₁ s
  let (name, s) ← identifier s
  let (relations, s) := optionally relationsSection (layout s)
  return (⟨name, relations.getD []⟩, s)

/-! ### Conditions -/

/-- The inner type of a parameter type: anything but `>` in angle brackets. -/
def typeArgument : Parser (List Char) := fun s => do
  let s ← expect ['<'] s
  let (inside, s) ← chars₁ (· != '>') s
  let s ← expect ['>'] s
  return ('<' :: inside ++ ['>'], s)

/-- A parameter type such as `string` or `map<string>`. -/
def parameterType : Parser String := fun s => do
  let (word, s) ← chars₁ (fun c => Text.isAlphanumeric c || c = '_') s
  let (argument, s) := optionally typeArgument s
  return (String.ofList (word ++ argument.getD []), s)

/-- A parameter: its name, a colon and its type. -/
def conditionParameter : Parser (String × String) := fun s => do
  let (name, s) ← identifier s
  let s ← expect [':'] (spaces s)
  let (typeName, s) ← parameterType (spaces s)
  return ((name, typeName), s)

/-- Splits a text before the brace that closes `depth + 1` open ones. -/
def closingBrace : Nat → List Char → Option (List Char × List Char)
  | _, [] => none
  | depth, c :: s =>
    if c = '\x7b' then (closingBrace (depth + 1) s).map fun (b, r) => (c :: b, r)
    else if c = '\x7d' then
      match depth with
      | 0 => some ([], s)
      | depth + 1 => (closingBrace depth s).map fun (b, r) => (c :: b, r)
    else (closingBrace depth s).map fun (b, r) => (c :: b, r)

/-- A block in braces, up to the brace that closes the first one; gives what is inside without its
outer white space. -/
def bracedBlock : Parser String := fun s => do
  let s ← expect ['\x7b'] s
  let (body, rest) ← closingBrace 0 s
  return (String.ofList (Text.trim body), rest)

/-- A comma with layout around it. -/
def layoutComma (s : List Char) : Option (List Char) := do
  return layout (← expect [','] (layout s))

/-- The parameters of a condition in parentheses. -/
def parameters : Parser (List (String × String)) := fun s => do
  let s ← expect ['('] s
  let (ps, s) := optionally (separated layoutComma conditionParameter) (layout s)
  let s ← expect [')'] (layout s)
  return (ps.getD [], s)

/-- A condition: `condition`, its name, its parameters and its expression in braces. -/
def conditionDefinition : Parser Condition := fun s => do
  let s ← expect ['c', 'o', 'n', 'd', 'i', 't', 'i', 'o', 'n'] s
  let s ← spaces₁ s
  let (name, s) ← identifier s
  let (ps, s) ← parameters (spaces s)
  let (body, s) ← bracedBlock (layout s)
  return (⟨name, body, ps⟩, s)

/-! ### Models -/

/-- A definition at the top level of a model. -/
inductive Item
  | type (t : TypeDefinition)
  | condition (c : Condition)
  deriving Repr, Inhabited

/-- The type that an item defines. -/
def Item.type? : Item → Option TypeDefinition
  | type t => some t
  | condition _ => none

/-- The condition that an item defines. -/
def Item.condition? : Item → Option Condition
  | type _ => none
  | condition c => some c

/-- A type or a condition. -/
def item : Parser Item :=
  orElse (fun s => (typeDefinition s).map fun (t, s) => (.type t, s))
    (fun s => (conditionDefinition s).map fun (c, s) => (.condition c, s))

/-- The header: `model`, `schema` and the schema version. -/
def modelHeader : Parser String := fun s => do
  let s ← expect ['m', 'o', 'd', 'e', 'l'] s
  let s ← expect ['s', 'c', 'h', 'e', 'm', 'a'] (layout s)
  let s ← spaces₁ s
  let (version, s) ← chars₁ (fun c => c.isDigit || c = '.') s
  return (String.ofList version, s)

/-- The schema version of a model without a header. -/
def defaultSchemaVersion : String := "1.1"

/-- A model: as much of the text as there are definitions, and the rest. -/
def model (s : List Char) : Model × List Char :=
  let (version, s) := optionally (withLayout modelHeader) (layout s)
  let (items, s) := many (withLayout item) s
  (⟨none, version.getD defaultSchemaVersion, items.filterMap Item.type?,
    items.filterMap Item.condition?⟩, s)

end Relata.Language
