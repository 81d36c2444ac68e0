import Mathlib.Data.List.Nodup
import Relata.Json.Document
import Relata.Proofs.Pairing
import Relata.Proofs.Result

/-!
# Parts that have a value

A list or an object has a value if it is complete, does not nest too deep, and each of its parts has
one. The value of an object has each name once: of members with one name the last counts.

## Main definitions

* `HasMember` — a member of an object with its name and value.
* `Value.insertAll` — the members of an object, added one after the other.
* `HasDistinctNames` — a value without repeated names.

## Main results

* `value_array_eq_ok`, `value_object_eq_ok` — the values of lists and objects.
* `Value.lookup_insertAll` — **of members with one name the last counts.**
* `hasDistinctNames_of_value` — **the value of a part has no repeated names.**
-/

namespace Relata.Json

/-- Induction on values: a list or object comes with the hypothesis for each of its parts. -/
@[elab_as_elim, induction_eliminator]
theorem Value.inductionOn {P : Value → Prop} (null : P .null) (bool : ∀ b, P (.bool b))
    (number : ∀ n, P (.number n)) (string : ∀ s, P (.string s))
    (array : ∀ items, (∀ v ∈ items, P v) → P (.array items))
    (object : ∀ members : List (String × Value), (∀ m ∈ members, P m.2) →
      P (.object members)) : ∀ v : Value, P v
  | .null => null
  | .bool b => bool b
  | .number n => number n
  | .string s => string s
  | .array items => array items fun v _ =>
      inductionOn null bool number string array object v
  | .object members => object members fun m hm =>
      have hlt : sizeOf m.2 < 1 + sizeOf members := by
        have hm := List.sizeOf_lt_of_mem hm
        have hpair : sizeOf m = 1 + sizeOf m.1 + sizeOf m.2 := rfl
        omega
      inductionOn null bool number string array object m.2

theorem Ending.guard_eq_ok {α : Type} {ending : Ending} {a b : α} :
    ending.guard a = .ok b ↔ ending.broken? = none ∧ a = b := by
  rw [Ending.guard]
  cases ending.broken? with
  | none => simp
  | some b => simp

theorem Ending.guard_eq {α : Type} {ending : Ending} (h : ending.broken? = none) (a : α) :
    ending.guard a = .ok a :=
  guard_eq_ok.mpr ⟨h, rfl⟩

/-! ### Lists -/

theorem values_eq_ok {nodes : List Node} {vs : List Value} :
    Node.values nodes = .ok vs ↔ List.Forall₂ (fun n v => n.value = .ok v) nodes vs := by
  induction nodes generalizing vs with
  | nil =>
    rw [Node.values, List.forall₂_nil_left_iff, Except.ok.injEq]
    exact eq_comm
  | cons n nodes ih =>
    rw [Node.values, bind_eq_ok]
    constructor
    · rintro ⟨v, hv, h⟩
      obtain ⟨rest, hrest, h⟩ := bind_eq_ok.mp h
      obtain rfl := Except.ok.inj h
      exact .cons hv (ih.mp hrest)
    · rintro (_ | ⟨hv, hrest⟩)
      exact ⟨_, hv, bind_eq_ok.mpr ⟨_, ih.mpr hrest, rfl⟩⟩

theorem value_array_eq_ok {start : Nat} {deep : Bool} {nodes : List Node} {ending : Ending}
    {v : Value} : (Node.array start deep nodes ending).value = .ok v ↔
      deep = false ∧ ending.broken? = none ∧
        ∃ vs, List.Forall₂ (fun n v => n.value = .ok v) nodes vs ∧ v = .array vs := by
  cases deep with
  | true => simp [Node.value]
  | false =>
    simp only [Node.value, Bool.false_eq_true, if_false, bind_eq_ok, values_eq_ok,
      Ending.guard_eq_ok, true_and]
    constructor
    · rintro ⟨vs, hvs, hending, rfl⟩
      exact ⟨hending, vs, hvs, rfl⟩
    · rintro ⟨hending, vs, hvs, rfl⟩
      exact ⟨vs, hvs, hending, rfl⟩

/-! ### Objects -/

/-- A member of an object with its name and value. -/
def HasMember (k : Key × Node) (m : String × Value) : Prop :=
  k.1.name = .ok m.1 ∧ k.2.value = .ok m.2

/-- Members added to those before, one after the other. -/
def Value.insertAll (before members : List (String × Value)) : List (String × Value) :=
  members.foldl (fun found m => Value.insert m.1 m.2 found) before

theorem memberValues_eq_ok {before found : List (String × Value)} {nodes : List (Key × Node)} :
    Node.memberValues before nodes = .ok found ↔
      ∃ members, List.Forall₂ HasMember nodes members ∧
        found = Value.insertAll before members := by
  induction nodes generalizing before with
  | nil =>
    simp only [Node.memberValues, List.forall₂_nil_left_iff, Except.ok.injEq, exists_eq_left]
    exact eq_comm
  | cons k nodes ih =>
    obtain ⟨key, n⟩ := k
    rw [Node.memberValues, bind_eq_ok]
    constructor
    · rintro ⟨name, hname, h⟩
      obtain ⟨v, hv, h⟩ := bind_eq_ok.mp h
      obtain ⟨members, hmembers, rfl⟩ := ih.mp h
      exact ⟨(name, v) :: members, .cons ⟨hname, hv⟩ hmembers, rfl⟩
    · rintro ⟨_, _ | ⟨⟨hname, hv⟩, hmembers⟩, rfl⟩
      exact ⟨_, hname, bind_eq_ok.mpr ⟨_, hv, ih.mpr ⟨_, hmembers, rfl⟩⟩⟩

theorem value_object_eq_ok {start : Nat} {deep : Bool} {nodes : List (Key × Node)}
    {ending : Ending} {v : Value} : (Node.object start deep nodes ending).value = .ok v ↔
      deep = false ∧ ending.broken? = none ∧
        ∃ members, List.Forall₂ HasMember nodes members ∧
          v = .object (Value.insertAll [] members) := by
  cases deep with
  | true => simp [Node.value]
  | false =>
    simp only [Node.value, Bool.false_eq_true, if_false, bind_eq_ok, memberValues_eq_ok,
      Ending.guard_eq_ok, true_and]
    constructor
    · rintro ⟨_, ⟨members, hmembers, rfl⟩, hending, rfl⟩
      exact ⟨hending, members, hmembers, rfl⟩
    · rintro ⟨hending, members, hmembers, rfl⟩
      exact ⟨_, ⟨members, hmembers, rfl⟩, hending, rfl⟩

/-! ### Parts of a known value -/

/-- Only `null` has the value `null`. -/
theorem eq_null_of_value {n : Node} (h : n.value = .ok .null) :
    ∃ start stop, n = .null start stop := by
  cases n with
  | null start stop => exact ⟨start, stop, rfl⟩
  | array start deep nodes ending =>
    obtain ⟨-, -, _, -, hv⟩ := value_array_eq_ok.mp h
    cases hv
  | object start deep nodes ending =>
    obtain ⟨-, -, _, -, hv⟩ := value_object_eq_ok.mp h
    cases hv
  | _ => cases h

/-- Only a list has a list as its value. -/
theorem eq_array_of_value {n : Node} {vs : List Value} (h : n.value = .ok (.array vs)) :
    ∃ start nodes ending, n = .array start false nodes ending ∧
      List.Forall₂ (fun n v => n.value = .ok v) nodes vs := by
  cases n with
  | array start deep nodes ending =>
    obtain ⟨rfl, -, _, hvs, hv⟩ := value_array_eq_ok.mp h
    obtain rfl := Value.array.inj hv
    exact ⟨start, nodes, ending, rfl, hvs⟩
  | object start deep nodes ending =>
    obtain ⟨-, -, _, -, hv⟩ := value_object_eq_ok.mp h
    cases hv
  | _ => cases h

/-- Only an object has an object as its value. -/
theorem eq_object_of_value {n : Node} {members : List (String × Value)}
    (h : n.value = .ok (.object members)) :
    ∃ start nodes ending found, n = .object start false nodes ending ∧
      List.Forall₂ HasMember nodes found ∧ members = Value.insertAll [] found := by
  cases n with
  | array start deep nodes ending =>
    obtain ⟨-, -, _, -, hv⟩ := value_array_eq_ok.mp h
    cases hv
  | object start deep nodes ending =>
    obtain ⟨rfl, -, found, hfound, hv⟩ := value_object_eq_ok.mp h
    exact ⟨start, nodes, ending, found, rfl, hfound, Value.object.inj hv⟩
  | _ => cases h

/-! ### Names of members -/

namespace Value

theorem lookup_insert_self (name : String) (v : Value) (members : List (String × Value)) :
    (insert name v members).lookup name = some v := by
  induction members with
  | nil => simp
  | cons m members ih =>
    obtain ⟨other, w⟩ := m
    rw [insert]
    by_cases hother : other = name
    · rw [if_pos hother, List.lookup_cons_self]
    · rw [if_neg hother, List.lookup_cons, beq_false_of_ne (Ne.symm hother), ih]

theorem lookup_insert {name other : String} (hne : name ≠ other) (v : Value)
    (members : List (String × Value)) :
    (insert other v members).lookup name = members.lookup name := by
  induction members with
  | nil => simp [hne]
  | cons m members ih =>
    obtain ⟨first, w⟩ := m
    rw [insert]
    by_cases hfirst : first = other
    · subst hfirst
      rw [if_pos rfl, List.lookup_cons, List.lookup_cons, beq_false_of_ne hne]
    · rw [if_neg hfirst, List.lookup_cons, List.lookup_cons, ih]

/-- **Of members with one name the last counts.** -/
theorem lookup_insertAll (name : String) (before members : List (String × Value)) :
    (insertAll before members).lookup name =
      ((members.filter (·.1 = name)).getLast?.map Prod.snd).or (before.lookup name) := by
  induction members generalizing before with
  | nil => rfl
  | cons m members ih =>
    obtain ⟨other, v⟩ := m
    rw [insertAll, List.foldl_cons, ← insertAll, ih]
    by_cases hother : other = name
    · subst hother
      rw [List.filter_cons_of_pos (by simp), lookup_insert_self, List.getLast?_cons]
      cases (members.filter (·.1 = other)).getLast? with
      | none => rfl
      | some m => rfl
    · rw [List.filter_cons_of_neg (by simpa using hother), lookup_insert (Ne.symm hother)]

theorem mem_names_insert {name other : String} {v : Value} {members : List (String × Value)} :
    name ∈ (insert other v members).map Prod.fst ↔
      name = other ∨ name ∈ members.map Prod.fst := by
  induction members with
  | nil => simp
  | cons m members ih =>
    obtain ⟨first, w⟩ := m
    rw [insert]
    by_cases hfirst : first = other
    · subst hfirst
      simp
    · simp only [if_neg hfirst, List.map_cons, List.mem_cons, ih]
      exact or_left_comm

theorem nodup_insert {name : String} {v : Value} {members : List (String × Value)}
    (h : (members.map Prod.fst).Nodup) : ((insert name v members).map Prod.fst).Nodup := by
  induction members with
  | nil => simp
  | cons m members ih =>
    obtain ⟨first, w⟩ := m
    rw [List.map_cons, List.nodup_cons] at h
    rw [insert]
    by_cases hfirst : first = name
    · subst hfirst
      rwa [if_pos rfl, List.map_cons, List.nodup_cons]
    · rw [if_neg hfirst, List.map_cons, List.nodup_cons, mem_names_insert, not_or]
      exact ⟨⟨hfirst, h.1⟩, ih h.2⟩

theorem nodup_insertAll_of_nodup {before : List (String × Value)} (h : (before.map Prod.fst).Nodup)
    (members : List (String × Value)) : ((insertAll before members).map Prod.fst).Nodup := by
  induction members generalizing before with
  | nil => exact h
  | cons m members ih => exact ih (nodup_insert h)

/-- No name comes twice in the value of an object. -/
theorem nodup_insertAll (members : List (String × Value)) :
    ((insertAll [] members).map Prod.fst).Nodup :=
  nodup_insertAll_of_nodup (by simp) members

theorem mem_of_mem_insert {name : String} {v : Value} {members : List (String × Value)}
    {m : String × Value} (h : m ∈ insert name v members) : m = (name, v) ∨ m ∈ members := by
  induction members with
  | nil => simpa using h
  | cons m' members ih =>
    obtain ⟨other, w⟩ := m'
    rw [insert] at h
    split at h
    · exact (List.mem_cons.mp h).imp_right (List.mem_cons_of_mem _)
    · rcases List.mem_cons.mp h with rfl | h
      · exact Or.inr List.mem_cons_self
      · exact (ih h).imp_right (List.mem_cons_of_mem _)

/-- The members of an object are among those that are added. -/
theorem mem_of_mem_insertAll {members : List (String × Value)} {m : String × Value}
    (h : m ∈ insertAll [] members) : m ∈ members := by
  have hall : ∀ before, m ∈ insertAll before members → m ∈ before ∨ m ∈ members := by
    clear h
    intro before h
    induction members generalizing before with
    | nil => exact Or.inl h
    | cons m' members ih =>
      rcases ih _ h with h | h
      · rcases mem_of_mem_insert h with rfl | h
        · exact Or.inr List.mem_cons_self
        · exact Or.inl h
      · exact Or.inr (List.mem_cons_of_mem m' h)
  exact (hall [] h).resolve_left List.not_mem_nil

theorem insert_eq {name : String} {members : List (String × Value)}
    (h : name ∉ members.map Prod.fst) (v : Value) :
    insert name v members = members ++ [(name, v)] := by
  induction members with
  | nil => rfl
  | cons m members ih =>
    obtain ⟨other, w⟩ := m
    rw [List.map_cons, List.mem_cons, not_or] at h
    rw [insert, if_neg (Ne.symm h.1), ih h.2, List.cons_append]

theorem insertAll_eq_append {before members : List (String × Value)}
    (h : ((before ++ members).map Prod.fst).Nodup) :
    insertAll before members = before ++ members := by
  induction members generalizing before with
  | nil => exact (List.append_nil before).symm
  | cons m members ih =>
    obtain ⟨name, v⟩ := m
    have hfresh : name ∉ before.map Prod.fst := by
      rw [List.map_append, List.map_cons, List.nodup_append] at h
      intro hmem
      exact h.2.2 name hmem name List.mem_cons_self rfl
    rw [insertAll, List.foldl_cons, ← insertAll, insert_eq hfresh, ih (by simpa using h),
      List.append_assoc, List.singleton_append]

/-- Members are added as they are if no name comes twice. -/
theorem insertAll_eq {members : List (String × Value)} (h : (members.map Prod.fst).Nodup) :
    insertAll [] members = members :=
  insertAll_eq_append (by rwa [List.nil_append])

/-- Where no name comes twice, what is looked up is the last member of its name. -/
theorem getLast?_filter_eq_lookup {name : String} {members : List (String × Value)}
    (h : (members.map Prod.fst).Nodup) :
    (members.filter (·.1 = name)).getLast?.map Prod.snd = members.lookup name := by
  induction members with
  | nil => rfl
  | cons m members ih =>
    obtain ⟨other, v⟩ := m
    rw [List.map_cons, List.nodup_cons] at h
    by_cases hother : other = name
    · subst hother
      have hnone : members.filter (·.1 = other) = [] := by
        rw [List.filter_eq_nil_iff]
        intro m hm hname
        exact h.1 (List.mem_map.mpr ⟨m, hm, by simpa using hname⟩)
      rw [List.filter_cons_of_pos (by simp), hnone, List.lookup_cons_self]
      rfl
    · rw [List.filter_cons_of_neg (by simpa using hother), ih h.2, List.lookup_cons,
        beq_false_of_ne (Ne.symm hother)]

end Value

/-! ### Values without repeated names -/

/-- A value in which no object has two members of one name. -/
inductive HasDistinctNames : Value → Prop
  | null : HasDistinctNames .null
  | bool (b : Bool) : HasDistinctNames (.bool b)
  | number (n : Number) : HasDistinctNames (.number n)
  | string (s : String) : HasDistinctNames (.string s)
  | array {items : List Value} : (∀ v ∈ items, HasDistinctNames v) → HasDistinctNames (.array items)
  | object {members : List (String × Value)} : (members.map Prod.fst).Nodup →
      (∀ m ∈ members, HasDistinctNames m.2) → HasDistinctNames (.object members)

/-- **The value of a part has no repeated names**, whatever the text repeats. -/
theorem hasDistinctNames_of_value {n : Node} {v : Value} (h : n.value = .ok v) :
    HasDistinctNames v := by
  induction v generalizing n with
  | null => exact .null
  | bool b => exact .bool b
  | number x => exact .number x
  | string s => exact .string s
  | array items ih =>
    obtain ⟨start, nodes, ending, rfl, hvs⟩ := eq_array_of_value h
    refine .array fun v hv => ?_
    obtain ⟨n, -, hn⟩ := exists_of_forall₂_right hvs hv
    exact ih v hv hn
  | object members ih =>
    obtain ⟨start, nodes, ending, found, rfl, hfound, rfl⟩ := eq_object_of_value h
    refine .object (Value.nodup_insertAll found) fun m hm => ?_
    obtain ⟨k, -, hk⟩ := exists_of_forall₂_right hfound (Value.mem_of_mem_insertAll hm)
    exact ih m hm hk.2

end Relata.Json
