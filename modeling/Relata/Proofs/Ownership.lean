import Relata.Proofs.SymbolTable

/-!
# Owners of identifiers

What a scope answers to a sequence of operations, by the history of the operations alone. The first
operation that asks for an identifier makes its name the owner for good: whoever asks for the
identifier later is granted it under that name and refused it under any other, and a refusal leaves
no trace.

## Main definitions

* `Operation`, `perform` — what may be asked of a scope, and one step of it.
* `after`, `log` — the scope behind a sequence of operations, and the operations with the answers.
* `firstOwner?` — the name of the first operation of a history that asks for an identifier.
* `Mirrors` — a scope whose owners are the first owners of a history.

## Main results

* `Mirrors.perform`, `mirrors_after` — a step keeps the invariant, and so does a run.
* `Mirrors.answer_eq_ok`, `Mirrors.answer_eq_error` — a step is answered by its history.
* `log_of_deleted` — refused operations may be deleted.
* `firstOwner_decides` — **an identifier never changes owner.**
-/

namespace Relata

namespace Scope

/-! ### Operations -/

/-- What may be asked of a scope. -/
inductive Operation
  /-- A name asks for its identifier. -/
  | assign (name : String)
  /-- A name asks for a given identifier. -/
  | claim (identifier name : String)
  deriving DecidableEq, Repr, Inhabited

namespace Operation

/-- The name that asks. -/
def name : Operation → String
  | assign name => name
  | claim _ name => name

/-- The identifier that is asked for. -/
def target : Operation → String
  | assign name => sanitize name
  | claim identifier _ => identifier

/-- What is given in return: the identifier, if it was not known to who asks. -/
def given : Operation → Option String
  | assign name => some (sanitize name)
  | claim _ _ => none

end Operation

/-- What an operation is answered. -/
abbrev Answer := Except Collision (Option String)

/-- The answer to an operation and the scope behind it, which is the same if there is a collision. -/
def perform (s : Scope) : Operation → Answer × Scope
  | .assign name => match s.assign name with
    | .ok (identifier, t) => (.ok (some identifier), t)
    | .error c => (.error c, s)
  | .claim identifier name => match s.claim identifier name with
    | .ok t => (.ok none, t)
    | .error c => (.error c, s)

/-- The scope behind a sequence of operations. -/
def after (s : Scope) : List Operation → Scope
  | [] => s
  | op :: ops => (s.perform op).2.after ops

/-- The operations of a sequence, each with its answer. -/
def log (s : Scope) : List Operation → List (Operation × Answer)
  | [] => []
  | op :: ops => (op, (s.perform op).1) :: (s.perform op).2.log ops

section Runs

variable {s : Scope} {op : Operation}

/-- One step by the claim that it makes. -/
theorem perform_eq (s : Scope) (op : Operation) :
    s.perform op = match s.claim op.target op.name with
      | .ok t => (.ok op.given, t)
      | .error c => (.error c, s) := by
  cases op with
  | assign name =>
    show (match s.assign name with
      | .ok (identifier, t) => ((.ok (some identifier) : Answer), t)
      | .error c => (.error c, s)) = _
    rw [assign]
    show _ = match s.claim (sanitize name) name with
      | .ok t => ((.ok (some (sanitize name)) : Answer), t)
      | .error c => (.error c, s)
    cases s.claim (sanitize name) name with
    | ok t => rfl
    | error c => rfl
  | claim identifier name => rfl

theorem perform_of_free (h : s.owner? op.target = none) :
    s.perform op = (.ok op.given, ⟨s.label, (op.target, op.name) :: s.owners⟩) := by
  rw [perform_eq, claim, h]

theorem perform_of_owned {first : String} (h : s.owner? op.target = some first) :
    s.perform op =
      (if first = op.name then .ok op.given else .error ⟨s.label, first, op.name, op.target⟩, s) := by
  rw [perform_eq, claim, h]
  by_cases hf : first = op.name
  · simp only [if_pos hf]
  · simp only [if_neg hf]

theorem map_fst_log (s : Scope) (ops : List Operation) : (s.log ops).map Prod.fst = ops := by
  induction ops generalizing s with
  | nil => rfl
  | cons op ops ih => rw [log, List.map_cons, ih]

theorem after_append (s : Scope) (ops ops' : List Operation) :
    s.after (ops ++ ops') = (s.after ops).after ops' := by
  induction ops generalizing s with
  | nil => rfl
  | cons op ops ih => rw [List.cons_append, after, ih, after]

theorem log_append (s : Scope) (ops ops' : List Operation) :
    s.log (ops ++ ops') = s.log ops ++ (s.after ops).log ops' := by
  induction ops generalizing s with
  | nil => rfl
  | cons op ops ih => rw [List.cons_append, log, ih, log, after, List.cons_append]

/-- The entry of an operation is its answer behind those before it. -/
theorem getElem?_log (s : Scope) (before : List Operation) (op : Operation)
    (rest : List Operation) : (s.log (before ++ op :: rest))[before.length]? =
      some (op, ((s.after before).perform op).1) := by
  have hlength : (s.log before).length = before.length := by
    rw [← List.length_map Prod.fst, map_fst_log]
  rw [log_append, List.getElem?_append_right (Nat.le_of_eq hlength), hlength, Nat.sub_self]
  rfl

/-- An operation that is refused leaves the scope as it is. -/
theorem perform_eq_error {c : Collision} (h : (s.perform op).1 = .error c) :
    (s.perform op).2 = s := by
  rw [perform_eq] at h ⊢
  cases hclaim : s.claim op.target op.name with
  | ok t =>
    rw [hclaim] at h
    cases h
  | error c' => rfl

end Runs

/-! ### Histories -/

/-- The name of the first operation of a history that asks for an identifier. -/
def firstOwner? (history : List Operation) (identifier : String) : Option String :=
  (history.find? (·.target == identifier)).map Operation.name

/-- A scope whose owners are the first owners of a history. -/
structure Mirrors (s : Scope) (label : String) (history : List Operation) : Prop where
  label : s.label = label
  owner? : ∀ identifier, s.owner? identifier = firstOwner? history identifier

section Histories

variable {s : Scope} {label : String} {history : List Operation}

theorem firstOwner?_append (history : List Operation) (op : Operation) (identifier : String) :
    firstOwner? (history ++ [op]) identifier =
      (firstOwner? history identifier).or
        (if op.target = identifier then some op.name else none) := by
  rw [firstOwner?, firstOwner?, List.find?_append]
  cases history.find? (·.target == identifier) with
  | some first => rfl
  | none =>
    by_cases h : op.target = identifier
    · simp [h]
    · simp [h]

theorem mirrors_empty (label : String) : (empty label).Mirrors label [] :=
  ⟨rfl, fun _ => rfl⟩

/-- **A step keeps the invariant**: only an identifier without an owner gets one. -/
theorem Mirrors.perform (h : s.Mirrors label history) (op : Operation) :
    (s.perform op).2.Mirrors label (history ++ [op]) := by
  cases ho : s.owner? op.target with
  | none =>
    rw [perform_of_free ho]
    refine ⟨h.label, fun identifier => ?_⟩
    rw [firstOwner?_append, ← h.owner?]
    show ((op.target, op.name) :: s.owners).lookup identifier = _
    by_cases hi : op.target = identifier
    · subst hi
      rw [ho, List.lookup_cons_self, if_pos rfl, Option.none_or]
    · rw [List.lookup_cons, beq_false_of_ne (Ne.symm hi), if_neg hi, Option.or_none]
      rfl
  | some first =>
    rw [perform_of_owned ho]
    refine ⟨h.label, fun identifier => ?_⟩
    rw [firstOwner?_append, ← h.owner?]
    by_cases hi : op.target = identifier
    · subst hi
      rw [ho, Option.some_or]
    · rw [if_neg hi, Option.or_none]

/-- The owners behind a sequence of operations are its first owners. -/
theorem Mirrors.after (h : s.Mirrors label history) (ops : List Operation) :
    (s.after ops).Mirrors label (history ++ ops) := by
  induction ops generalizing s history with
  | nil =>
    rw [List.append_nil]
    exact h
  | cons op ops ih =>
    have hrest := ih (h.perform op)
    rwa [List.append_assoc, List.singleton_append] at hrest

theorem mirrors_after (label : String) (ops : List Operation) :
    ((empty label).after ops).Mirrors label ops := by
  simpa using (mirrors_empty label).after ops

/-- An operation is granted if no operation before it asked for the identifier, or the first one
that did carried the same name. -/
theorem Mirrors.answer_eq_ok (h : s.Mirrors label history) (op : Operation) :
    (s.perform op).1 = .ok op.given ↔
      ∀ first ∈ firstOwner? history op.target, first = op.name := by
  rw [← h.owner?]
  cases ho : s.owner? op.target with
  | none => simp [perform_of_free ho]
  | some first =>
    rw [perform_of_owned ho]
    by_cases hf : first = op.name
    · simp [hf]
    · simp [hf]

/-- An operation that is refused is told the first owner, whose name is another. -/
theorem Mirrors.answer_eq_error (h : s.Mirrors label history) (op : Operation) (c : Collision) :
    (s.perform op).1 = .error c ↔
      ∃ first, firstOwner? history op.target = some first ∧ first ≠ op.name ∧
        c = ⟨label, first, op.name, op.target⟩ := by
  rw [← h.owner?]
  cases ho : s.owner? op.target with
  | none => simp [perform_of_free ho]
  | some first =>
    rw [perform_of_owned ho, h.label]
    by_cases hf : first = op.name
    · simp [hf]
    · simp [hf, eq_comm]

end Histories

/-! ### Deleted operations -/

/-- Whether an operation of a log was granted. -/
def isGranted (e : Operation × Answer) : Bool := e.2.isOk

/-- What is left of a log if some of the refused operations are deleted. -/
structure IsLeftOf (rest log : List (Operation × Answer)) : Prop where
  sublist : rest.Sublist log
  granted : rest.filter isGranted = log.filter isGranted

/-- The first entry of a log may be deleted only if it was refused. -/
theorem isGranted_of_deleted {rest log : List (Operation × Answer)} {e : Operation × Answer}
    (hsub : rest.Sublist log) (h : rest.filter isGranted = (e :: log).filter isGranted) :
    isGranted e = false := by
  cases hgranted : isGranted e with
  | false => rfl
  | true =>
    have hle := (hsub.filter isGranted).length_le
    rw [h, List.filter_cons_of_pos hgranted, List.length_cons] at hle
    omega

/-- **Refused operations may be deleted**: the answers to the others are the same. -/
theorem log_of_deleted {s : Scope} {ops : List Operation} {rest : List (Operation × Answer)}
    (h : IsLeftOf rest (s.log ops)) : s.log (rest.map Prod.fst) = rest := by
  obtain ⟨hsub, hgranted⟩ := h
  induction ops generalizing s rest with
  | nil =>
    obtain rfl := List.sublist_nil.mp hsub
    rfl
  | cons op ops ih =>
    rw [log] at hsub hgranted
    cases hsub with
    | cons _ hsub =>
      -- the operation is deleted, so it was refused, and the scope is the same behind it
      have hrefused := isGranted_of_deleted hsub hgranted
      have hscope : (s.perform op).2 = s := by
        cases hanswer : (s.perform op).1 with
        | ok given => simp [isGranted, hanswer, Except.isOk, Except.toBool] at hrefused
        | error c => exact perform_eq_error hanswer
      rw [List.filter_cons_of_neg (by simp [hrefused])] at hgranted
      rw [hscope] at hsub hgranted
      exact ih hsub hgranted
    | @cons_cons rest _ _ hsub =>
      rw [List.map_cons, log]
      refine congrArg _ (ih hsub ?_)
      cases he : isGranted (op, (s.perform op).1) with
      | true =>
        rw [List.filter_cons_of_pos he, List.filter_cons_of_pos he] at hgranted
        exact (List.cons.inj hgranted).2
      | false =>
        rw [List.filter_cons_of_neg (by simp [he]), List.filter_cons_of_neg (by simp [he])]
          at hgranted
        exact hgranted

/-! ### Sequences without a refusal -/

/-- No operation of a sequence is refused if the scope leaves all identifiers to those who ask for
them, and no two of them ask for the same one. -/
theorem forall_log_isGranted {s : Scope} {ops : List Operation} :
    (∀ e ∈ s.log ops, isGranted e = true) ↔
      (∀ op ∈ ops, s.IsFree op.target op.name) ∧
        ∀ op ∈ ops, ∀ op' ∈ ops, op.target = op'.target → op.name = op'.name := by
  induction ops generalizing s with
  | nil => simp [log]
  | cons op ops ih =>
    rw [log]
    by_cases hfree : s.IsFree op.target op.name
    · obtain ⟨t, hclaim, hfree'⟩ := claim_eq_ok hfree
      have hgranted : isGranted (op, (.ok op.given : Answer)) = true := rfl
      simp only [perform_eq, hclaim, List.forall_mem_cons, hgranted, ih, hfree', true_and]
      grind
    · obtain ⟨c, hclaim⟩ := claim_eq_error hfree
      have hrefused : isGranted (op, (.error c : Answer)) = false := rfl
      simp only [perform_eq, hclaim, List.forall_mem_cons, hrefused]
      grind

/-- **An identifier never changes owner.** Behind a sequence of operations its owner is the name of
the first operation that asked for it. An operation is granted if and only if that name, where there
is one, is its own; an operation that is refused is told that name and its own, and leaves the scope
as it is. Whichever of the refused operations are deleted, the others are answered the same. Nothing
is refused in a sequence, whatever its order, if and only if no two of its operations ask for the
same identifier under different names. -/
theorem firstOwner_decides (label : String) (ops : List Operation) :
    (∀ identifier, ((empty label).after ops).owner? identifier = firstOwner? ops identifier) ∧
      (∀ before op rest, ops = before ++ op :: rest →
        ∃ answer, ((empty label).log ops)[before.length]? = some (op, answer) ∧
          (answer = .ok op.given ↔
            ∀ first ∈ firstOwner? before op.target, first = op.name) ∧
          (∀ c, answer = .error c ↔
            ∃ first, firstOwner? before op.target = some first ∧ first ≠ op.name ∧
              c = ⟨label, first, op.name, op.target⟩) ∧
          ∀ c, answer = .error c →
            (empty label).after (before ++ [op]) = (empty label).after before) ∧
      (∀ rest, IsLeftOf rest ((empty label).log ops) →
        (empty label).log (rest.map Prod.fst) = rest) ∧
      ((∀ e ∈ (empty label).log ops, isGranted e = true) ↔
        ∀ op ∈ ops, ∀ op' ∈ ops, op.target = op'.target → op.name = op'.name) := by
  refine ⟨(mirrors_after label ops).owner?, ?_, fun rest => log_of_deleted, ?_⟩
  · rintro before op rest rfl
    have hmirrors := mirrors_after label before
    refine ⟨(((empty label).after before).perform op).1, getElem?_log _ before op rest,
      hmirrors.answer_eq_ok op, hmirrors.answer_eq_error op, ?_⟩
    intro c hrefused
    rw [after_append]
    exact perform_eq_error hrefused
  · rw [forall_log_isGranted]
    simp only [isFree_empty, implies_true, true_and]

/-- A name asks twice for its identifier, and another one in between. -/
def viewers : List Operation :=
  [.assign "can-view", .claim "can_view" "can_view", .assign "can-view"]

theorem firstOwner_decides_viewers :
    viewers = [.assign "can-view"] ++ .claim "can_view" "can_view" :: [.assign "can-view"] ∧
      ((empty "types").log viewers)[1]? = some (.claim "can_view" "can_view",
        .error ⟨"types", "can-view", "can_view", "can_view"⟩) ∧
      IsLeftOf (((empty "types").log viewers).filter isGranted)
        ((empty "types").log viewers) ∧
      (empty "types").log [.assign "can-view", .assign "can-view"] =
        ((empty "types").log viewers).filter isGranted ∧
      ¬ ∀ e ∈ (empty "types").log viewers, isGranted e = true := by
  obtain ⟨-, hanswers, hdeleted, hall⟩ := firstOwner_decides "types" viewers
  obtain ⟨answer, hanswer, -, hrefused, -⟩ := hanswers [.assign "can-view"] _ _ rfl
  have hfirst : firstOwner? [.assign "can-view"] "can_view" = some "can-view" := by decide
  have hsame : IsLeftOf (((empty "types").log viewers).filter isGranted)
      ((empty "types").log viewers) :=
    ⟨List.filter_sublist, by simp only [List.filter_filter, Bool.and_self]⟩
  refine ⟨rfl, ?_, hsame, hdeleted _ hsame, ?_⟩
  · rw [(hrefused _).mpr ⟨"can-view", hfirst, by decide, rfl⟩] at hanswer
    exact hanswer
  · rw [hall]
    decide

end Scope

end Relata
