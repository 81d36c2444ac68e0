import Relata.Proofs.Language.Lexeme
import Relata.Proofs.Rule

/-!
# The grammar of the model language

Which texts write a model, whatever their layout. Blanks and layout may be of any length wherever
they may stand at all, operands may have more parentheses than they need, and types and conditions
may alternate. The only texts left out are those in which a name would run into what follows it.

## Main definitions

* `Behind`, `Sequence` — lists with separators, and with layout behind each element.
* `Written` — the texts of an expression, by how tightly it binds.
* `WrittenType`, `WrittenCondition`, `WrittenModel` — the texts of definitions and of models.
* `Model.IsWritable` — the models that have a text.
-/

namespace Relata

namespace Language

/-! ### Lists -/

/-- Elements that follow another one, each behind a separator. -/
inductive Behind {α : Type} (sep : List Char → Prop) (W : α → List Char → Prop) :
    List α → List Char → Prop
  | nil : Behind sep W [] []
  | cons {a : α} {as : List α} {b t u : List Char} :
      sep b → W a t → Apart t u → Behind sep W as u → Behind sep W (a :: as) (b ++ t ++ u)

/-- Elements with layout behind each. -/
inductive Sequence {α : Type} (W : α → List Char → Prop) : List α → List Char → Prop
  | nil : Sequence W [] []
  | cons {a : α} {as : List α} {t b u : List Char} :
      W a t → Layout b → Apart t (b ++ u) → Sequence W as u → Sequence W (a :: as) (t ++ b ++ u)

/-- A comma between texts of a kind. -/
def CommaWithin (P : List Char → Prop) (b : List Char) : Prop :=
  ∃ b₁ b₂, P b₁ ∧ P b₂ ∧ b = b₁ ++ ',' :: b₂

/-- An operator between its operands. Only the blanks behind it are needed. -/
def OperatorText (word b : List Char) : Prop :=
  ∃ b₁ b₂, Blanks b₁ ∧ Gap b₂ ∧ b = b₁ ++ word ++ b₂

/-! ### Expressions -/

/-- A subject kind whose relation is a name. -/
def KindIsWritable : SubjectKind → Prop
  | .object => True
  | .userset relation => IsName relation
  | .wildcard => True

instance : DecidablePred KindIsWritable
  | .object => .isTrue trivial
  | .userset relation => inferInstanceAs (Decidable (IsName relation))
  | .wildcard => .isTrue trivial

/-- The texts of a subject. -/
inductive WrittenSubject : Subject → List Char → Prop
  | plain {n : String} {kind : SubjectKind} :
      IsName n → KindIsWritable kind →
      WrittenSubject ⟨n, kind, none⟩ (n.toList ++ kind.suffix.toList)
  | conditional {n : String} {kind : SubjectKind} {c : String} {b₁ b₂ : List Char} :
      IsName n → KindIsWritable kind → Gap b₁ → Gap b₂ → IsName c →
      WrittenSubject ⟨n, kind, some c⟩
        (n.toList ++ kind.suffix.toList ++ b₁ ++ ['w', 'i', 't', 'h'] ++ b₂ ++ c.toList)

/-- How tightly an expression binds. -/
inductive Binding
  /-- A single operand. -/
  | operand
  /-- Operands joined by `and`. -/
  | conjunction
  /-- Conjunctions joined by `or`. -/
  | disjunction
  /-- A disjunction with or without `but not`. -/
  | whole
  deriving DecidableEq, Repr, Inhabited

/-- The texts of a rule where an expression of the given binding may stand. -/
inductive Written : Binding → Rule → List Char → Prop
  | direct {s : Subject} {ss : List Subject} {b₁ t u b₂ : List Char} :
      Blanks b₁ → WrittenSubject s t → Apart t u →
      Behind (CommaWithin Blanks) WrittenSubject ss u → Blanks b₂ →
      Written .operand (.direct (s :: ss)) (['['] ++ b₁ ++ t ++ u ++ b₂ ++ [']'])
  | computed {n : String} : IsName n → Written .operand (.computed n) n.toList
  | fromTupleset {tupleset n : String} {b₁ b₂ : List Char} :
      IsName n → Gap b₁ → Gap b₂ → IsName tupleset →
      Written .operand (.fromTupleset tupleset n)
        (n.toList ++ b₁ ++ ['f', 'r', 'o', 'm'] ++ b₂ ++ tupleset.toList)
  | parenthesized {e : Rule} {b₁ t b₂ : List Char} :
      Blanks b₁ → Written .whole e t → Blanks b₂ →
      Written .operand e (['('] ++ b₁ ++ t ++ b₂ ++ [')'])
  | operand {e : Rule} {t : List Char} : Written .operand e t → Written .conjunction e t
  | intersection {e e' : Rule} {es : List Rule} {t u : List Char} :
      Written .operand e t → Apart t u →
      Behind (OperatorText ['a', 'n', 'd']) (Written .operand) (e' :: es) u →
      Written .conjunction (.intersection (e :: e' :: es)) (t ++ u)
  | conjunction {e : Rule} {t : List Char} : Written .conjunction e t → Written .disjunction e t
  | union {e e' : Rule} {es : List Rule} {t u : List Char} :
      Written .conjunction e t → Apart t u →
      Behind (OperatorText ['o', 'r']) (Written .conjunction) (e' :: es) u →
      Written .disjunction (.union (e :: e' :: es)) (t ++ u)
  | disjunction {e : Rule} {t : List Char} : Written .disjunction e t → Written .whole e t
  | difference {base subtract : Rule} {t b₁ b₂ b₃ u : List Char} :
      Written .disjunction base t → Gap b₁ → Gap b₂ → Gap b₃ → Written .operand subtract u →
      Written .whole (.difference base subtract)
        (t ++ b₁ ++ ['b', 'u', 't'] ++ b₂ ++ ['n', 'o', 't'] ++ b₃ ++ u)

/-! ### Types -/

/-- The texts of a relation. -/
inductive WrittenRelation : Relation → List Char → Prop
  | mk {n : String} {e : Rule} {b₁ b₂ b₃ t : List Char} :
      Gap b₁ → IsName n → Blanks b₂ → Blanks b₃ → Written .whole e t →
      WrittenRelation ⟨n, e⟩
        (['d', 'e', 'f', 'i', 'n', 'e'] ++ b₁ ++ n.toList ++ b₂ ++ [':'] ++ b₃ ++ t)

/-- The texts of a type. -/
inductive WrittenType : TypeDefinition → List Char → Prop
  | bare {n : String} {b : List Char} :
      Gap b → IsName n → WrittenType ⟨n, []⟩ (['t', 'y', 'p', 'e'] ++ b ++ n.toList)
  | withRelations {n : String} {rs : List Relation} {b₁ b₂ b₃ u : List Char} :
      Gap b₁ → IsName n → Layout b₂ → b₂ ≠ [] → Layout b₃ → Sequence WrittenRelation rs u →
      WrittenType ⟨n, rs⟩ (['t', 'y', 'p', 'e'] ++ b₁ ++ n.toList ++ b₂ ++
        ['r', 'e', 'l', 'a', 't', 'i', 'o', 'n', 's'] ++ b₃ ++ u)

/-! ### Conditions -/

/-- The texts of a parameter type: a word, and possibly another text in angle brackets. -/
def IsParameterType (text : String) : Prop :=
  ∃ word argument : List Char, text.toList = word ++ argument ∧ word ≠ [] ∧
    (∀ c ∈ word, (Text.isAlphanumeric c || c = '_') = true) ∧
    (argument = [] ∨ ∃ inside, inside ≠ [] ∧ '>' ∉ inside ∧ argument = '<' :: (inside ++ ['>']))

/-- Braces are balanced: all of them are closed, and none before it is opened. -/
def Balanced (body : List Char) : Prop :=
  (∀ p, p <+: body → p.count '\x7d' ≤ p.count '\x7b') ∧ body.count '\x7d' = body.count '\x7b'

instance (body : List Char) : Decidable (Balanced body) :=
  decidable_of_iff
    ((∀ n < body.length + 1, (body.take n).count '\x7d' ≤ (body.take n).count '\x7b') ∧
      body.count '\x7d' = body.count '\x7b') <|
    and_congr_left fun _ => by
      constructor
      · intro h p hp
        rw [List.prefix_iff_eq_take.mp hp]
        exact h _ (Nat.lt_succ_of_le hp.length_le)
      · exact fun h n _ => h _ (List.take_prefix n body)

/-- The texts of a parameter. -/
inductive WrittenParameter : String × String → List Char → Prop
  | mk {n type : String} {b₁ b₂ : List Char} :
      IsName n → Blanks b₁ → Blanks b₂ → IsParameterType type →
      WrittenParameter (n, type) (n.toList ++ b₁ ++ [':'] ++ b₂ ++ type.toList)

/-- The texts of parameters in parentheses. -/
inductive WrittenParameters : List (String × String) → List Char → Prop
  | empty {b : List Char} : Layout b → WrittenParameters [] (['('] ++ b ++ [')'])
  | list {p : String × String} {ps : List (String × String)} {b₁ t u b₂ : List Char} :
      Layout b₁ → WrittenParameter p t → Apart t u →
      Behind (CommaWithin Layout) WrittenParameter ps u → Layout b₂ →
      WrittenParameters (p :: ps) (['('] ++ b₁ ++ t ++ u ++ b₂ ++ [')'])

/-- A text that can be the expression of a condition. -/
def IsConditionBody (text : String) : Prop :=
  Text.trim text.toList = text.toList ∧ Balanced text.toList

instance (text : String) : Decidable (IsConditionBody text) :=
  inferInstanceAs (Decidable (Text.trim text.toList = text.toList ∧ Balanced text.toList))

/-- The texts of a condition. White space inside the braces does not count at their ends. -/
inductive WrittenCondition : Condition → List Char → Prop
  | mk {n body : String} {ps : List (String × String)} {b₁ b₂ t b₃ pad₁ pad₂ : List Char} :
      Gap b₁ → IsName n → Blanks b₂ → WrittenParameters ps t → Layout b₃ →
      IsConditionBody body → (∀ c ∈ pad₁, Text.isBlank c = true) →
      (∀ c ∈ pad₂, Text.isBlank c = true) →
      WrittenCondition ⟨n, body, ps⟩
        (['c', 'o', 'n', 'd', 'i', 't', 'i', 'o', 'n'] ++ b₁ ++ n.toList ++ b₂ ++ t ++ b₃ ++
          ['\x7b'] ++ pad₁ ++ body.toList ++ pad₂ ++ ['\x7d'])

/-! ### Models -/

/-- A schema version: digits and points. -/
def IsVersion (v : String) : Prop :=
  v.toList ≠ [] ∧ ∀ c ∈ v.toList, (c.isDigit || c = '.') = true

instance (v : String) : Decidable (IsVersion v) :=
  inferInstanceAs (Decidable (v.toList ≠ [] ∧ ∀ c ∈ v.toList, (c.isDigit || c = '.') = true))

/-- The texts of an item. -/
inductive WrittenItem : Item → List Char → Prop
  | type {t : TypeDefinition} {s : List Char} : WrittenType t s → WrittenItem (.type t) s
  | condition {c : Condition} {s : List Char} :
      WrittenCondition c s → WrittenItem (.condition c) s

/-- The texts of a header. A model of the default version needs none. -/
inductive WrittenHeader : String → List Char → Prop
  | absent : WrittenHeader defaultSchemaVersion []
  | mk {v : String} {b₁ b₂ : List Char} :
      Layout b₁ → Gap b₂ → IsVersion v →
      WrittenHeader v (['m', 'o', 'd', 'e', 'l'] ++ b₁ ++
        ['s', 'c', 'h', 'e', 'm', 'a'] ++ b₂ ++ v.toList)

/-- The texts of a model: layout, a header, and the types and conditions in any order that keeps
that of either list. The last line may end in a comment. -/
inductive WrittenModel : Model → List Char → Prop
  | mk {v : String} {types : List TypeDefinition} {conditions : List Condition}
      {items : List Item} {b₁ h b₂ u comment : List Char} :
      Layout b₁ → WrittenHeader v h → Layout b₂ → Sequence WrittenItem items u →
      (comment = [] ∨ ∃ body, (∀ c ∈ body, isLineEnd c = false) ∧ comment = '#' :: body) →
      items.filterMap Item.type? = types → items.filterMap Item.condition? = conditions →
      WrittenModel ⟨none, v, types, conditions⟩ (b₁ ++ h ++ b₂ ++ u ++ comment)

/-- A subject that can be written: its names are names. -/
structure SubjectIsWritable (s : Subject) : Prop where
  typeName : IsName s.typeName
  kind : KindIsWritable s.kind
  condition : ∀ c ∈ s.condition, IsName c

instance (s : Subject) : Decidable (SubjectIsWritable s) :=
  decidable_of_iff (IsName s.typeName ∧ KindIsWritable s.kind ∧ ∀ c ∈ s.condition, IsName c)
    ⟨fun ⟨hn, hk, hc⟩ => ⟨hn, hk, hc⟩, fun ⟨hn, hk, hc⟩ => ⟨hn, hk, hc⟩⟩

/-- A node that can be written: it has enough operands, and its names are names. -/
def NodeIsWritable : Rule → Prop
  | .direct subjects => subjects ≠ [] ∧ ∀ s ∈ subjects, SubjectIsWritable s
  | .computed relation => IsName relation
  | .fromTupleset tupleset relation => IsName tupleset ∧ IsName relation
  | .union children => 2 ≤ children.length
  | .intersection children => 2 ≤ children.length
  | .difference _ _ => True

instance : DecidablePred NodeIsWritable
  | .direct subjects =>
    inferInstanceAs (Decidable (subjects ≠ [] ∧ ∀ s ∈ subjects, SubjectIsWritable s))
  | .computed relation => inferInstanceAs (Decidable (IsName relation))
  | .fromTupleset tupleset relation =>
    inferInstanceAs (Decidable (IsName tupleset ∧ IsName relation))
  | .union children => inferInstanceAs (Decidable (2 ≤ children.length))
  | .intersection children => inferInstanceAs (Decidable (2 ≤ children.length))
  | .difference _ _ => .isTrue trivial

end Language

open Relata.Language

/-- A model that can be written: it has no id, its names are names, its nodes have enough operands,
and the texts in it keep the form of their places. -/
structure Model.IsWritable (m : Model) : Prop where
  id : m.id = none
  version : IsVersion m.schemaVersion
  typeNames : ∀ t ∈ m.types, IsName t.name
  relationNames : ∀ t ∈ m.types, ∀ r ∈ t.relations, IsName r.name
  nodes : ∀ t ∈ m.types, ∀ r ∈ t.relations, ∀ n ∈ r.rule.nodes, NodeIsWritable n
  conditionNames : ∀ c ∈ m.conditions, IsName c.name
  conditionBodies : ∀ c ∈ m.conditions, IsConditionBody c.expression
  parameters : ∀ c ∈ m.conditions, ∀ p ∈ c.parameters, IsName p.1 ∧ IsParameterType p.2

end Relata
