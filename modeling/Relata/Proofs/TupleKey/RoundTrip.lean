import Relata.Proofs.Json.Depth
import Relata.Proofs.Json.Integer
import Relata.TupleKey

/-!
# Tuple keys read back from their trees

The tree form of a key says all there is in the key, and what is absent is not written. The reader
takes `null` for what is absent, so a context that is `null` is the one thing that is lost, and a key
that was read has no such context.

## Main definitions

* `TupleKey.settled` — a key without a context that is `null`.
* `IsValueEquality` — what an equality of trees has to tell apart.
* `TupleKey.Survives` — what becomes of a key that is written and read.

## Main results

* `TupleKey.reads_toJson` — **a key is read back from its tree**, but for a context that is `null`.
* `TupleKey.settled_of_read` — what is read loses nothing.
* `TupleKey.toJson_rel` — keys that differ are written differently.
* `TupleKey.survives` — **a tuple key survives its tree form.**
-/

namespace Relata

open Json (Value Node Reader Reads Fills HasDistinctNames IsLegible IsWithin FormDocument
  nestingLimit)

/-! ### What is read back -/

/-- A condition without a context that is `null`. -/
def TupleCondition.settled (c : TupleCondition) : TupleCondition :=
  match c.context with
  | some .null => ⟨c.name, none⟩
  | _ => c

/-- A key without a context that is `null`. -/
def TupleKey.settled (k : TupleKey) : TupleKey :=
  { k with condition := k.condition.map TupleCondition.settled }

/-- What is known about the parameters of the condition of a key. -/
def TupleKey.context? (k : TupleKey) : Option Value := k.condition.bind TupleCondition.context

theorem TupleCondition.settled_eq {c : TupleCondition} (h : c.context ≠ some .null) :
    c.settled = c := by
  rw [settled]
  split
  · next hnull => exact absurd hnull h
  · rfl

theorem TupleKey.settled_eq {k : TupleKey} (h : k.context? ≠ some .null) : k.settled = k := by
  obtain ⟨type, object, relation, user, condition⟩ := k
  cases condition with
  | none => rfl
  | some c => rw [settled, Option.map_some, TupleCondition.settled_eq h]

theorem TupleCondition.reads_toJson {c : TupleCondition}
    (h : ∀ v, c.context = some v → HasDistinctNames v) : Reads shape.read c.toJson c.settled := by
  obtain ⟨name, context⟩ := c
  have hname := Json.reads_text name
  cases context with
  | none => exact Fills.reads (.cons rfl (by decide) (hname.put _ _ _ _) .nil) rfl
  | some v =>
    have hcontext : Reads (Reader.optional Reader.tree) v (settled ⟨name, some v⟩).context := by
      have htree := Json.reads_tree (h v rfl)
      cases v with
      | null => exact Json.reads_optional_null Reader.tree
      | _ => exact htree.optional nofun
    have hread : Reads shape.read (.object [("name", .string name), ("context", v)])
        ⟨name, (settled ⟨name, some v⟩).context⟩ :=
      Fills.reads (.cons rfl (by decide) (hname.put _ _ _ _)
        (.cons rfl (by decide) (hcontext.put _ _ _ _) .nil)) rfl
    cases v with
    | null => exact hread
    | _ => exact hread

/-- **A key is read back from its tree**, wherever the tree stands. A context that is `null` is read
as none. -/
theorem TupleKey.reads_toJson {k : TupleKey} (h : ∀ v, k.context? = some v → HasDistinctNames v) :
    Reads shape.read k.toJson k.settled := by
  obtain ⟨type, object, relation, user, condition⟩ := k
  have htype := Json.reads_text type
  have hobject := Json.reads_text object
  have hrelation := Json.reads_text relation
  have huser := Json.reads_text user
  cases condition with
  | none =>
    exact Fills.reads (.cons rfl (by decide) (htype.put _ _ _ _)
      (.cons rfl (by decide) (hobject.put _ _ _ _)
        (.cons rfl (by decide) (hrelation.put _ _ _ _)
          (.cons rfl (by decide) (huser.put _ _ _ _) .nil)))) rfl
  | some c =>
    have hcondition := (TupleCondition.reads_toJson (c := c) h).optional nofun
    exact Fills.reads (.cons rfl (by decide) (htype.put _ _ _ _)
      (.cons rfl (by decide) (hobject.put _ _ _ _)
        (.cons rfl (by decide) (hrelation.put _ _ _ _)
          (.cons rfl (by decide) (huser.put _ _ _ _)
            (.cons rfl (by decide) (hcondition.put _ _ _ _) .nil))))) rfl

/-! ### What is read -/

/-- A context that is read is not `null`, and it is the value of a part. -/
theorem TupleCondition.context_of_optional {n : Node} {v : Value}
    (h : Reader.optional Reader.tree n = .ok (some v)) : v ≠ .null ∧ n.value = .ok v := by
  have hvalue : n.value = .ok v := Json.of_optional_eq_some h
  refine ⟨?_, hvalue⟩
  rintro rfl
  obtain ⟨start, stop, rfl⟩ := Json.eq_null_of_value hvalue
  exact absurd (Except.ok.inj h) (Option.some_ne_none _).symm

/-- What is known about the parameters of a condition that is read. -/
theorem TupleCondition.context_of_read {R : Value → Prop} {n : Node} {c : TupleCondition}
    (hparts : ∀ k ∈ n.children, ∀ v, k.value = .ok v → R v) (h : shape.read n = .ok c) :
    ∀ v, c.context = some v → v ≠ .null ∧ R v := by
  refine Json.Shape.read_invariant (P := fun c => ∀ v, c.context = some v → v ≠ .null ∧ R v)
    (Q := fun k => ∀ v, k.value = .ok v → R v)
    (fun _ hv => absurd hv.symm (Option.some_ne_none _)) ?_ hparts h
  intro f hf c k c' hk hc hput v hv
  simp only [shape, List.mem_cons, List.not_mem_nil, or_false] at hf
  rcases hf with rfl | rfl
  · obtain ⟨name, -, rfl⟩ := map_eq_ok.mp hput
    exact hc v hv
  · obtain ⟨context, hcontext, rfl⟩ := map_eq_ok.mp hput
    obtain rfl : context = some v := hv
    obtain ⟨hnull, hvalue⟩ := context_of_optional hcontext
    exact ⟨hnull, hk v hvalue⟩

/-- So for the condition of a key, which stands one bracket further in. -/
theorem TupleKey.context_of_read {R : Value → Prop} {n : Node} {k : TupleKey}
    (hparts : ∀ c ∈ n.children, ∀ p ∈ c.children, ∀ v, p.value = .ok v → R v)
    (h : shape.read n = .ok k) : ∀ v, k.context? = some v → v ≠ .null ∧ R v := by
  refine Json.Shape.read_invariant (P := fun k => ∀ v, k.context? = some v → v ≠ .null ∧ R v)
    (Q := fun c => ∀ p ∈ c.children, ∀ v, p.value = .ok v → R v)
    (fun _ hv => absurd hv.symm (Option.some_ne_none _)) ?_ hparts h
  intro f hf k c k' hc hk hput v hv
  simp only [shape, List.mem_cons, List.not_mem_nil, or_false] at hf
  rcases hf with rfl | rfl | rfl | rfl | rfl
  -- a text leaves the condition as it is
  iterate 4
    · obtain ⟨text, -, rfl⟩ := map_eq_ok.mp hput
      exact hk v hv
  · obtain ⟨condition, hcondition, rfl⟩ := map_eq_ok.mp hput
    cases condition with
    | none => contradiction
    | some condition =>
      exact TupleCondition.context_of_read hc (Json.of_optional_eq_some hcondition) v hv

/-- A key that is read has distinct names in its context. -/
theorem TupleKey.hasDistinctNames_of_read {n : Node} {k : TupleKey} (h : shape.read n = .ok k) :
    ∀ v, k.context? = some v → HasDistinctNames v :=
  fun v hv =>
    (context_of_read (fun _ _ _ _ _ => Json.hasDistinctNames_of_value) h v hv).2

/-- **What is read loses nothing** when it is written. -/
theorem TupleKey.settled_of_read {n : Node} {k : TupleKey} (h : shape.read n = .ok k) :
    k.settled = k := by
  refine settled_eq fun hnull => ?_
  exact (context_of_read (R := fun _ => True) (fun _ _ _ _ _ _ => trivial) h _ hnull).1 rfl

/-- **A key that is read is read back from its tree.** -/
theorem TupleKey.reads_toJson_of_read {n : Node} {k : TupleKey} (h : shape.read n = .ok k) :
    Reads shape.read k.toJson k := by
  have hreads := reads_toJson (hasDistinctNames_of_read h)
  rwa [settled_of_read h] at hreads

/-! ### Texts -/

section Members

variable {P : Value → Prop}

/-- The members of a condition are texts, but for the context. -/
theorem TupleCondition.toJson_members (c : TupleCondition) (hstring : ∀ s, P (.string s))
    (hcontext : ∀ v, c.context = some v → P v) :
    ∃ members, c.toJson = .object members ∧ ∀ m ∈ members, P m.2 := by
  refine ⟨_, rfl, ?_⟩
  obtain ⟨name, _ | v⟩ := c
  · simp [hstring]
  · simp [hstring, hcontext v rfl]

/-- So are the members of a key, but for the condition. -/
theorem TupleKey.toJson_members (k : TupleKey) (hstring : ∀ s, P (.string s))
    (hcondition : ∀ c, k.condition = some c → P c.toJson) :
    ∃ members, k.toJson = .object members ∧ ∀ m ∈ members, P m.2 := by
  refine ⟨_, rfl, ?_⟩
  obtain ⟨type, object, relation, user, _ | c⟩ := k
  · simp [hstring]
  · simp [hstring, hcondition c rfl]

end Members

theorem TupleKey.context?_eq {k : TupleKey} {c : TupleCondition} (h : k.condition = some c) :
    k.context? = c.context := by
  rw [context?, h, Option.bind_some]

/-- A key nests two deeper than its context. -/
theorem TupleKey.depth_toJson_le {k : TupleKey} {n : Nat}
    (h : ∀ v, k.context? = some v → v.depth ≤ n) : k.toJson.depth ≤ n + 2 := by
  obtain ⟨members, hk, hmembers⟩ := k.toJson_members (P := fun v => v.depth ≤ n + 1)
    (fun _ => Nat.zero_le _) fun c hc => by
      obtain ⟨members, hc', hmembers⟩ := c.toJson_members (P := fun v => v.depth ≤ n)
        (fun _ => Nat.zero_le _) fun v hv => h v ((context?_eq hc).trans hv)
      rw [hc', Value.depth]
      exact Nat.succ_le_succ (Value.depthOfMembers_le hmembers)
  rw [hk, Value.depth]
  exact Nat.succ_le_succ (Value.depthOfMembers_le hmembers)

/-- A key is legible if its context is. -/
theorem TupleKey.isLegible_toJson {k : TupleKey} (h : ∀ v, k.context? = some v → IsLegible v) :
    IsLegible k.toJson := by
  obtain ⟨members, hk, hmembers⟩ := k.toJson_members (P := IsLegible) .string fun c hc => by
    obtain ⟨members, hc', hmembers⟩ := c.toJson_members (P := IsLegible) .string fun v hv =>
      h v ((context?_eq hc).trans hv)
    rw [hc']
    exact .object hmembers
  rw [hk]
  exact .object hmembers

/-- **A key is read back from its text**, if the text may nest as deep as the key does. -/
theorem TupleKey.ofJsonText_render {k : TupleKey}
    (hnames : ∀ v, k.context? = some v → HasDistinctNames v)
    (hlegible : ∀ v, k.context? = some v → IsLegible v) (hdepth : k.toJson.depth ≤ nestingLimit) :
    ofJsonText k.toJson.render = .ok k.settled :=
  (reads_toJson hnames).decode_eq (isLegible_toJson hlegible).formDocument hdepth

/-- A key that was read from a text nests as deep as a text may. -/
theorem TupleKey.depth_toJson_of_text {text : String} {k : TupleKey} (h : ofJsonText text = .ok k) :
    k.toJson.depth ≤ nestingLimit := by
  have hread := Json.read_of_decode h
  have hcontext := context_of_read (R := fun v => v.depth ≤ nestingLimit - 2)
    (fun c hc p hp v hv => (((Json.isWithin_read _).children c hc).children p hp).depth_le hv) hread
  exact depth_toJson_le fun v hv => (hcontext v hv).2

/-! ### What is written -/

/-- What an equality of trees has to tell apart: texts, and objects whose members of one name
differ. The order of members and the representation of numbers are left to it. -/
structure IsValueEquality (R : Value → Value → Prop) : Prop where
  text : ∀ s t, R (.string s) (.string t) → s = t
  member : ∀ v w, R v w → ∀ name, Option.Rel R (v.get? name) (w.get? name)

theorem isValueEquality_eq : IsValueEquality Eq where
  text _ _ := Value.string.inj
  member := by
    rintro v _ rfl name
    cases v.get? name with
    | none => exact .none
    | some w => exact .some rfl

theorem TupleCondition.get?_name (c : TupleCondition) :
    c.toJson.get? "name" = some (.string c.name) :=
  rfl

theorem TupleCondition.get?_context (c : TupleCondition) : c.toJson.get? "context" = c.context := by
  obtain ⟨name, _ | v⟩ := c
  · rfl
  · rfl

theorem TupleKey.get?_condition (k : TupleKey) :
    k.toJson.get? "condition" = k.condition.map TupleCondition.toJson := by
  obtain ⟨type, object, relation, user, _ | c⟩ := k
  · rfl
  · rfl

section Equal

variable {R : Value → Value → Prop} (hR : IsValueEquality R)

include hR

/-- Members that are texts are the same. -/
theorem IsValueEquality.text_eq {v w : Value} (h : R v w) (name : String) {s t : String}
    (hv : v.get? name = some (.string s)) (hw : w.get? name = some (.string t)) : s = t := by
  have hmember := hR.member v w h name
  rw [hv, hw] at hmember
  cases hmember with
  | some hst => exact hR.text s t hst

/-- Conditions that are written alike are the same, with contexts that are equal. -/
theorem TupleCondition.toJson_rel {c c' : TupleCondition} (h : R c.toJson c'.toJson) :
    c.name = c'.name ∧ Option.Rel R c.context c'.context := by
  have hcontext := hR.member _ _ h "context"
  rw [c.get?_context, c'.get?_context] at hcontext
  exact ⟨hR.text_eq h "name" c.get?_name c'.get?_name, hcontext⟩

/-- **Keys that differ are written differently.** -/
theorem TupleKey.toJson_rel {k k' : TupleKey} (h : R k.toJson k'.toJson) :
    k.type = k'.type ∧ k.object = k'.object ∧ k.relation = k'.relation ∧ k.user = k'.user ∧
      Option.Rel (fun c c' => c.name = c'.name ∧ Option.Rel R c.context c'.context)
        k.condition k'.condition := by
  have htype := hR.text_eq h "type" (s := k.type) (t := k'.type) rfl rfl
  have hobject := hR.text_eq h "object" rfl rfl
  have hrelation := hR.text_eq h "relation" rfl rfl
  have huser := hR.text_eq h "user" rfl rfl
  have hcondition := hR.member _ _ h "condition"
  rw [k.get?_condition, k'.get?_condition] at hcondition
  refine ⟨htype, hobject, hrelation, huser, ?_⟩
  cases hc : k.condition with
  | none =>
    rw [hc] at hcondition
    cases hc' : k'.condition with
    | none => exact .none
    | some c' =>
      rw [hc'] at hcondition
      nomatch hcondition
  | some c =>
    rw [hc] at hcondition
    cases hc' : k'.condition with
    | none =>
      rw [hc'] at hcondition
      nomatch hcondition
    | some c' =>
      rw [hc'] at hcondition
      cases hcondition with
      | some hcc => exact .some (TupleCondition.toJson_rel hR hcc)

end Equal

/-! ### Survival -/

/-- What becomes of a key that is written and read. The names of an object in memory are distinct.
That numbers are read back from a text is left to the reader of numbers (`isLegible_integer`). -/
structure TupleKey.Survives (k : TupleKey) : Prop where
  memory : (∀ v, k.context? = some v → HasDistinctNames v) →
    shape.read (Node.ofValue k.toJson) = .ok k.settled
  text : (∀ v, k.context? = some v → HasDistinctNames v ∧ IsLegible v) →
    k.toJson.depth ≤ nestingLimit → ofJsonText k.toJson.render = .ok k.settled
  /-- A key that was read is reproduced. -/
  memory_again : ∀ n, shape.read n = .ok k → shape.read (Node.ofValue k.toJson) = .ok k
  text_again : ∀ s, ofJsonText s = .ok k → (∀ v, k.context? = some v → IsLegible v) →
    ofJsonText k.toJson.render = .ok k
  /-- What is absent is not written. -/
  condition : k.toJson.get? "condition" = k.condition.map TupleCondition.toJson
  context : ∀ c, k.condition = some c → c.toJson.get? "context" = c.context
  /-- A key that is written alike is the same key, but for how an equality takes contexts. -/
  inj : ∀ R, IsValueEquality R → ∀ k' : TupleKey, R k.toJson k'.toJson →
    k.type = k'.type ∧ k.object = k'.object ∧ k.relation = k'.relation ∧ k.user = k'.user ∧
      Option.Rel (fun c c' => c.name = c'.name ∧ Option.Rel R c.context c'.context)
        k.condition k'.condition

/-- **A tuple key survives its tree form**, but for a context that is `null`, which is read as
none. -/
theorem TupleKey.survives (k : TupleKey) : k.Survives where
  memory hnames := reads_toJson hnames _ (Json.holds_ofValue _)
  text h hdepth :=
    ofJsonText_render (fun v hv => (h v hv).1) (fun v hv => (h v hv).2) hdepth
  memory_again _ hread := reads_toJson_of_read hread _ (Json.holds_ofValue _)
  text_again s hread hlegible := by
    have hroot := Json.read_of_decode hread
    have hagain := ofJsonText_render (hasDistinctNames_of_read hroot) hlegible
      (depth_toJson_of_text hread)
    rwa [settled_of_read hroot] at hagain
  condition := k.get?_condition
  context c _ := c.get?_context
  inj _ hR _ h := toJson_rel hR h

/-- A key whose context nests and holds a `null` and an integer is read back from its text. -/
theorem TupleKey.survives_nested :
    let k : TupleKey := ⟨"document", "document:1", "viewer", "user:anne",
      some ⟨"in_region", some (.object [("limit", .number (.integer (-3))),
        ("codes", .array [.string "eu", .null])])⟩⟩
    ofJsonText k.toJson.render = .ok k := by
  intro k
  have hnames : HasDistinctNames (.array [.string "eu", .null]) :=
    .array (by simpa using ⟨.string "eu", .null⟩)
  have hlegible : IsLegible (.array [.string "eu", .null]) :=
    .array (by simpa using ⟨.string "eu", .null⟩)
  have hlimit : IsLegible (.number (.integer (-3))) := Json.isLegible_integer (by decide) (by decide)
  refine (survives k).text (fun v hv => ?_) (by decide)
  obtain rfl := Option.some.inj hv
  exact ⟨.object (by decide) (by simpa using ⟨.number _, hnames⟩),
    .object (by simpa using ⟨hlimit, hlegible⟩)⟩

end Relata
