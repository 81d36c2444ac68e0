import Relata.Proofs.Json.Shape

/-!
# How deep a text nests

A reader counts the brackets that are open, and what stands inside too many has no value. So the
value of a part nests only as deep as the brackets around it leave room for, and a part of that part
one less.

## Main definitions

* `IsWithin` — the lists and objects of a part nest no deeper than is allowed.

## Main results

* `isWithin_read` — **the parts of a document are within bounds.**
* `IsWithin.depth_le` — so is the value of such a part.
-/

namespace Relata.Json

/-- A part inside `outer` brackets. What nests too deep is marked. -/
inductive IsWithin : Nat → Node → Prop
  | null (outer start stop : Nat) : IsWithin outer (.null start stop)
  | bool (outer start stop : Nat) (b : Bool) : IsWithin outer (.bool start stop b)
  | number (outer start stop : Nat) (x : Number) : IsWithin outer (.number start stop x)
  | string (outer start stop : Nat) (s : String) : IsWithin outer (.string start stop s)
  | unusable (outer start : Nat) (use : Failure) (skip : Option Failure) :
      IsWithin outer (.unusable start use skip)
  | array {outer start : Nat} {deep : Bool} {items : List Node} {ending : Ending} :
      (deep = false → outer < nestingLimit) → (∀ n ∈ items, IsWithin (outer + 1) n) →
      IsWithin outer (.array start deep items ending)
  | object {outer start : Nat} {deep : Bool} {members : List (Key × Node)} {ending : Ending} :
      (deep = false → outer < nestingLimit) → (∀ m ∈ members, IsWithin (outer + 1) m.2) →
      IsWithin outer (.object start deep members ending)

/-! ### Values of parts -/

theorem Value.depthOf_le {items : List Value} {n : Nat} (h : ∀ v ∈ items, v.depth ≤ n) :
    Value.depthOf items ≤ n := by
  induction items with
  | nil => exact Nat.zero_le n
  | cons v items ih =>
    rw [depthOf]
    exact Nat.max_le.mpr ⟨h v List.mem_cons_self, ih fun w hw => h w (List.mem_cons_of_mem v hw)⟩

theorem Value.depthOfMembers_le {members : List (String × Value)} {n : Nat}
    (h : ∀ m ∈ members, m.2.depth ≤ n) : Value.depthOfMembers members ≤ n := by
  induction members with
  | nil => exact Nat.zero_le n
  | cons m members ih =>
    obtain ⟨name, v⟩ := m
    rw [depthOfMembers]
    exact Nat.max_le.mpr ⟨h (name, v) List.mem_cons_self,
      ih fun w hw => h w (List.mem_cons_of_mem _ hw)⟩

/-- The value of a part nests as deep as the brackets around it leave room for. -/
theorem IsWithin.depth_le {outer : Nat} {n : Node} {v : Value} (hn : IsWithin outer n)
    (h : n.value = .ok v) : v.depth ≤ nestingLimit - outer := by
  -- around the parts of a value one more bracket is open, so there is room for one less
  induction v generalizing outer n with
  | array items ih =>
    obtain ⟨start, nodes, ending, rfl, hvs⟩ := eq_array_of_value h
    cases hn with
    | array hdeep hnodes =>
      have hroom := hdeep rfl
      have hitems : Value.depthOf items ≤ nestingLimit - (outer + 1) := by
        refine Value.depthOf_le fun v hv => ?_
        obtain ⟨n, hn, hvalue⟩ := exists_of_forall₂_right hvs hv
        exact ih v hv (hnodes n hn) hvalue
      rw [Value.depth]
      omega
  | object members ih =>
    obtain ⟨start, nodes, ending, found, rfl, hfound, rfl⟩ := eq_object_of_value h
    cases hn with
    | object hdeep hnodes =>
      have hroom := hdeep rfl
      have hmembers : Value.depthOfMembers (Value.insertAll [] found) ≤
          nestingLimit - (outer + 1) := by
        refine Value.depthOfMembers_le fun m hm => ?_
        obtain ⟨k, hk, hmember⟩ := exists_of_forall₂_right hfound (Value.mem_of_mem_insertAll hm)
        exact ih m hm (hnodes k hk) hmember.2
      rw [Value.depth]
      omega
  | _ => exact Nat.zero_le _

/-- The parts of a list or object stand inside one more bracket. -/
theorem IsWithin.children {outer : Nat} {n : Node} (h : IsWithin outer n) :
    ∀ k ∈ n.children, IsWithin (outer + 1) k := by
  intro k hk
  cases h with
  | array _ hitems => exact hitems k hk
  | object _ hmembers =>
    obtain ⟨m, hm, rfl⟩ := List.mem_map.mp hk
    exact hmembers m hm
  | _ => contradiction

/-! ### Parts that are read -/

/-- The elements of a list are read one by one. -/
theorem mem_readItems {element : Cursor → Read} {c : Cursor} {n : Node}
    (h : n ∈ (readItems element c).parts) : ∃ d, n = (element d).node := by
  induction hlen : c.rest.length using Nat.strongRecOn generalizing c with
  | _ len ih =>
  have hself : n = (element c).node → ∃ d, n = (element d).node := fun heq => ⟨c, heq⟩
  rw [readItems] at h
  dsimp only at h
  split at h
  · exact hself (List.mem_singleton.mp h)
  split at h
  · exact hself (List.mem_singleton.mp h)
  · exact hself (List.mem_singleton.mp h)
  · split at h
    · exact hself (List.mem_singleton.mp h)
    · exact hself (List.mem_singleton.mp h)
    · split at h
      · next hless =>
        rcases List.mem_cons.mp h with heq | hmem
        · exact hself heq
        · exact ih _ (hlen ▸ hless) hmem rfl
      · exact hself (List.mem_singleton.mp h)
  · exact hself (List.mem_singleton.mp h)

/-- So are the values of the members of an object. -/
theorem mem_readMembers {element : Cursor → Read} {c : Cursor} {m : Key × Node}
    (h : m ∈ (readMembers element c).parts) : ∃ d, m.2 = (readMemberValue element d).node := by
  induction hlen : c.rest.length using Nat.strongRecOn generalizing c with
  | _ len ih =>
  rw [readMembers] at h
  dsimp only at h
  split at h
  · contradiction
  · next behind _ =>
    -- wherever the members end, the one that was read last is among them
    have hself : ∀ key, m = (key, (readMemberValue element behind).node) →
        ∃ d, m.2 = (readMemberValue element d).node := fun key heq => ⟨behind, congrArg Prod.snd heq⟩
    split at h
    · exact hself _ (List.mem_singleton.mp h)
    split at h
    · exact hself _ (List.mem_singleton.mp h)
    · exact hself _ (List.mem_singleton.mp h)
    · split at h
      · exact hself _ (List.mem_singleton.mp h)
      · split at h
        · next hless =>
          rcases List.mem_cons.mp h with heq | hmem
          · exact hself _ heq
          · exact ih _ (hlen ▸ hless) hmem rfl
        · exact hself _ (List.mem_singleton.mp h)
      · exact hself _ (List.mem_singleton.mp h)
      · exact hself _ (List.mem_singleton.mp h)
    · exact hself _ (List.mem_singleton.mp h)

theorem isWithin_word (outer start : Nat) (letters : List Char) (c : Cursor) {node : Nat → Node}
    (h : ∀ n, IsWithin outer (node n)) :
    IsWithin outer (Read.word start letters c node).node := by
  rw [Read.word]
  split
  · exact h _
  · exact .unusable _ _ _ _

theorem isWithin_number (outer : Nat) (c : Cursor) : IsWithin outer (Read.number c).node := by
  rw [Read.number]
  split
  · exact .unusable _ _ _ _
  · split
    · exact .number _ _ _ _
    · exact .unusable _ _ _ _

theorem isWithin_string (outer start : Nat) (rest : List Char) :
    IsWithin outer (Read.string start rest).node := by
  simp only [Read.string]
  split
  · exact .string _ _ _ _
  all_goals exact .unusable _ _ _ _

/-- The value of a member is read as any other part. -/
theorem isWithin_readMemberValue {outer : Nat} {element : Cursor → Read}
    (h : ∀ c, IsWithin outer (element c).node) (c : Cursor) :
    IsWithin outer (readMemberValue element c).node := by
  simp only [readMemberValue]
  split
  · exact .unusable _ _ _ _
  · exact h _
  · exact .unusable _ _ _ _

/-- What is read inside `outer` brackets is marked if it nests too deep. -/
theorem isWithin_readNode (fuel outer : Nat) (c : Cursor) :
    IsWithin outer (readNode fuel outer c).node := by
  induction fuel generalizing outer c with
  | zero => exact .unusable _ _ _ _
  | succ fuel ih =>
    obtain ⟨offset, rest⟩ := c
    have hroom : decide (outer ≥ nestingLimit) = false → outer < nestingLimit := by simp
    simp only [readNode]
    split
    · exact .unusable _ _ _ _
    -- the three words
    · exact isWithin_word _ _ _ _ fun _ => .null _ _ _
    · exact isWithin_word _ _ _ _ fun _ => .bool _ _ _ _
    · exact isWithin_word _ _ _ _ fun _ => .bool _ _ _ _
    · exact isWithin_string _ _ _
    · split
      · exact .array hroom nofun
      · exact .array hroom nofun
      · refine .array hroom fun n hn => ?_
        obtain ⟨d, rfl⟩ := mem_readItems hn
        exact ih _ _
    · split
      · exact .object hroom nofun
      · exact .object hroom nofun
      · refine .object hroom fun m hm => ?_
        obtain ⟨d, hd⟩ := mem_readMembers hm
        rw [hd]
        exact isWithin_readMemberValue (ih _) d
      · exact .object hroom nofun
    · split
      · exact isWithin_number _ _
      · exact .unusable _ _ _ _

/-- **The parts of a document are within bounds.** -/
theorem isWithin_read (s : List Char) : IsWithin 0 (Document.read s).root :=
  isWithin_readNode _ _ _

end Relata.Json
