import Relata.Model.Basic

/-!
# Categories of relations

Every relation falls into one category, which depends on the shape of its rule only.

## Main definitions

* `Category` — the categories, in the order in which they are listed.
* `OperandCount` — how many operands of each sort a set operation has.
* `Rule.category` — the category of a rule.
-/

namespace Relata

/-- How a relation comes by its members. -/
inductive Category
  /-- By assignment. -/
  | direct
  /-- From another relation of the object, with at most one assignment beside it. -/
  | computed
  /-- From related objects. -/
  | inherited
  /-- By any other combination. -/
  | indirect
  deriving DecidableEq, Repr, Inhabited

namespace Category

/-- All categories in the order in which they are listed. -/
def all : List Category := [direct, computed, inherited, indirect]

/-- The name of a category. -/
def name : Category → String
  | direct => "direct"
  | computed => "computed"
  | inherited => "inherited"
  | indirect => "indirect"

end Category

/-- How many operands of a set operation are assignments, other relations, and anything else. -/
structure OperandCount where
  direct : Nat
  computed : Nat
  nested : Nat
  deriving DecidableEq, Repr, Inhabited

namespace OperandCount

/-- The counts with one more operand. -/
def add (n : OperandCount) : Rule → OperandCount
  | .direct _ => ⟨n.direct + 1, n.computed, n.nested⟩
  | .computed _ => ⟨n.direct, n.computed + 1, n.nested⟩
  | _ => ⟨n.direct, n.computed, n.nested + 1⟩

/-- The counts of the operands of a set operation. -/
def of (operands : List Rule) : OperandCount :=
  operands.foldl add ⟨0, 0, 0⟩

/-- Whether the operation adds at most one assignment to other relations. -/
def isComputed (n : OperandCount) : Bool :=
  n.nested = 0 && 1 ≤ n.computed && n.direct ≤ 1

/-- Whether the operation joins assignments only. -/
def isDirect (n : OperandCount) : Bool :=
  n.nested = 0 && n.computed = 0

end OperandCount

/-- The category of a rule. Following a tupleset anywhere decides it; then a single leaf or a
flat operation; everything else is indirect. -/
def Rule.category (e : Rule) : Category :=
  if e.followsTupleset then .inherited
  else match e with
    | direct _ => .direct
    | computed _ => .computed
    | union children =>
      if (OperandCount.of children).isComputed then .computed
      else if (OperandCount.of children).isDirect then .direct
      else .indirect
    | intersection children =>
      if (OperandCount.of children).isComputed then .computed else .indirect
    | difference base subtract =>
      if (OperandCount.of [base, subtract]).isComputed then .computed else .indirect
    | fromTupleset _ _ => .inherited

end Relata
