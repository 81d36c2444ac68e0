import Mathlib.Data.List.Nodup
import Relata.Json.Shape
import Relata.Proofs.Json.Document
import Relata.Proofs.Result

/-!
# Readers of what is held

What a reader makes of a part depends on the value that the part holds, and not on where it stands:
each of the readers of the basic shapes has one statement about all parts that hold a value. A
record is read member by member.

## Main definitions

* `Reads` — a reader reads a value, in whatever part it stands.
* `Fills` — the members of an object are read into a record.
* `Node.children` — the parts of a list or object.

## Main results

* `reads_tree`, `reads_entries`, `reads_members` — values are read as they are.
* `Reads.list`, `Reads.pair` — a list is read element by element.
* `Reads.decode_eq` — **a value is read from each of its documents.**
* `Fills.reads`, `Reads.single` — **a record is read from an object.**
* `reads_bare`, `reads_full` — so is one of several alternatives, or from its name.
* `Shape.read_invariant` — what every member that is read keeps holds of the record.
* `nodup_of_entries` — no name comes twice.
-/

namespace Relata.Json

/-! ### Values -/

/-- `reader` reads `v` as `a`, in every part that holds it. -/
def Reads {α : Type} (reader : Reader α) (v : Value) (a : α) : Prop :=
  ∀ n, Holds v n → reader n = .ok a

section Readers

variable {α : Type} {reader : Reader α} {v : Value} {a : α}

theorem reads_text (s : String) : Reads Reader.text (.string s) s := by
  intro n h
  obtain ⟨start, stop, rfl⟩ := holds_string.mp h
  rfl

/-- What is not `null` is read by the reader of what is not `null`. -/
theorem Reads.optional (h : Reads reader v a) (hv : v ≠ .null) :
    Reads (Reader.optional reader) v (some a) := by
  intro n hn
  have hread : Reader.optional reader n = some <$> reader n := by
    cases n with
    | null start stop =>
      cases v with
      | null => contradiction
      | _ => nomatch hn
    | _ => rfl
  rw [hread, h n hn]
  rfl

theorem reads_optional_null (reader : Reader α) : Reads (Reader.optional reader) .null none := by
  intro n hn
  obtain ⟨start, stop, rfl⟩ := holds_null.mp hn
  rfl

theorem reads_tree (hv : HasDistinctNames v) : Reads Reader.tree v v := by
  intro n h
  exact hv.value_eq h

/-- **A value is read from each of its documents.** -/
theorem Reads.decode_eq (h : Reads reader v a) {text : String}
    (htext : FormDocument v.form text.toList) (hdepth : v.depth ≤ nestingLimit) :
    Document.decode text reader = .ok a := by
  obtain ⟨n, hread, hn⟩ := htext.read_form hdepth
  rw [Document.decode, hread, Document.run_eq, h n hn]
  rfl

/-- What is read from a text is read from its root. -/
theorem read_of_decode {text : String} (h : Document.decode text reader = .ok a) :
    reader (Document.read text.toList).root = .ok a := by
  obtain ⟨b, hread, h⟩ := bind_eq_ok.mp (mapError_eq_ok.mp h)
  split at h
  · obtain rfl := Except.ok.inj h
    exact hread
  · contradiction

/-- Inside a list or object a reader reads the same. -/
theorem Reads.inside (h : Reads reader v a) (closer : Char) :
    Reads (Reader.inside closer reader) v a := by
  intro n hn
  rw [Reader.inside, h n hn]
  rfl

theorem elements_eq {items : List Value} {as : List α} (h : List.Forall₂ (Reads reader) items as)
    {nodes : List Node} (hnodes : List.Forall₂ Holds items nodes) :
    Reader.elements reader nodes = .ok as := by
  induction h generalizing nodes with
  | nil =>
    cases hnodes
    rfl
  | @cons v a items as hread _ ih =>
    cases hnodes with
    | @cons _ n _ nodes hn hnodes =>
      rw [Reader.elements, hread.inside ']' n hn, ih hnodes]
      rfl

/-- A list is read element by element. -/
theorem Reads.list {items : List Value} {as : List α} (h : List.Forall₂ (Reads reader) items as) :
    Reads (Reader.list reader) (.array items) as := by
  intro n hn
  obtain ⟨start, nodes, ending, rfl, hnodes, hending⟩ := holds_array.mp hn
  rw [Reader.list, elements_eq h hnodes]
  simp only [bind, Except.bind, Ending.guard, hending]
  rfl

/-- A list of the values of the elements is read as the elements. -/
theorem Reads.list_map {β : Type} {f : β → Value} {g : β → α} {bs : List β}
    (h : ∀ b ∈ bs, Reads reader (f b) (g b)) :
    Reads (Reader.list reader) (.array (bs.map f)) (bs.map g) := by
  apply Reads.list
  rw [List.forall₂_map_left_iff, List.forall₂_map_right_iff, List.forall₂_same]
  exact h

/-- A list is read back if each of its elements is. -/
theorem Reads.list_of_map {f : α → Value} {as : List α} (h : ∀ a ∈ as, Reads reader (f a) a) :
    Reads (Reader.list reader) (.array (as.map f)) as := by
  have hlist := Reads.list_map (g := id) h
  rwa [List.map_id] at hlist

/-- What is read is taken on. -/
theorem Reads.map {β : Type} (h : Reads reader v a) (f : α → β) :
    Reads (fun n => f <$> reader n) v (f a) := by
  intro n hn
  show f <$> reader n = _
  rw [h n hn]
  rfl

/-- A complete list is at its end if no elements are left. -/
theorem over_eq_none {ending : Ending} (h : ending.broken? = none) (read : Nat) :
    Reader.Ending.over read [] ending = none := by
  cases ending with
  | broken b => contradiction
  | _ => rfl

/-- A list of two is read as a pair. -/
theorem Reads.pair {β : Type} {second : Reader β} {w : Value} {b : β} (h : Reads reader v a)
    (h' : Reads second w b) : Reads (Reader.pair reader second) (.array [v, w]) (a, b) := by
  intro n hn
  obtain ⟨start, nodes, ending, rfl, hnodes, hending⟩ := holds_array.mp hn
  rcases hnodes with _ | ⟨hx, _ | ⟨hy, ⟨⟩⟩⟩
  rw [Reader.pair]
  simp only [Bool.false_eq_true, if_false, h.inside ']' _ hx, h'.inside ']' _ hy, bind, Except.bind,
    over_eq_none hending]
  rfl

end Readers

theorem entriesFrom_eq {members : List (String × Value)} {nodes : List (Key × Node)}
    (before : List (String × Value)) (h : List.Forall₂ MemberHolds members nodes)
    (hmembers : ∀ m ∈ members, IsTextual m.2)
    (hnames : ((before ++ members).map Prod.fst).Nodup) :
    Reader.entriesFrom Reader.tree before.reverse nodes = .ok (before ++ members) := by
  -- what was read is kept in reverse, and each new name is looked for in it
  induction h generalizing before with
  | nil => rw [Reader.entriesFrom, List.reverse_reverse, List.append_nil]
  | @cons m _ members nodes hm _ ih =>
    obtain ⟨name, v⟩ := m
    obtain ⟨hkey, hn⟩ := hm
    have hfresh : before.reverse.any (·.1 == name) = false := by
      rw [List.map_append, List.map_cons, List.nodup_append] at hnames
      rw [List.any_eq_false]
      intro m hm
      have hne := hnames.2.2 m.1 (List.mem_map_of_mem (List.mem_reverse.mp hm)) name
        List.mem_cons_self
      simpa using hne
    have hread := (reads_tree (hmembers (name, v) List.mem_cons_self).hasDistinctNames).inside '\x7d' _ hn
    have htail := ih (before ++ [(name, v)])
      (fun m' hm' => hmembers m' (List.mem_cons_of_mem _ hm')) (by simpa using hnames)
    rw [List.reverse_append, List.reverse_singleton, List.singleton_append] at htail
    rw [Reader.entriesFrom, hkey]
    simp only [bind, Except.bind, hread, hfresh]
    simpa using htail

theorem reads_entries {members : List (String × Value)} (hv : IsTextual (.object members)) :
    Reads (Reader.entries Reader.tree) (.object members) members := by
  cases hv with
  | object hnames hmembers =>
    intro n hn
    obtain ⟨start, nodes, ending, rfl, hnodes, hending⟩ := holds_object.mp hn
    have hentries := entriesFrom_eq [] hnodes hmembers hnames
    rw [List.reverse_nil, List.nil_append] at hentries
    rw [Reader.entries, hentries]
    simp only [bind, Except.bind, Ending.guard, hending]
    rfl

theorem reads_members {members : List (String × Value)} (hv : IsTextual (.object members)) :
    Reads Reader.members (.object members) members := by
  cases hv with
  | object hnames hmembers =>
    intro n hn
    obtain ⟨start, nodes, ending, rfl, hnodes, hending⟩ := holds_object.mp hn
    have hfound := forall₂_hasMember hnodes fun m hm n hn =>
      (hmembers m hm).hasDistinctNames.value_eq hn
    have hvalues := memberValues_eq_ok.mpr ⟨members, hfound, (Value.insertAll_eq hnames).symm⟩
    exact bind_eq_ok.mpr ⟨members, hvalues, Ending.guard_eq hending members⟩

/-! ### Records -/

section Records

variable {σ α : Type}

/-- The members of an object are read one after the other into a record that has the members
`seen`. -/
inductive Fills (fields : List (Field σ)) :
    List String → σ → List (String × Value) → List String → σ → Prop
  | nil {seen : List String} {s : σ} : Fills fields seen s [] seen s
  | cons {seen seen' : List String} {s t s' : σ} {name : String} {v : Value}
      {rest : List (String × Value)} {f : Field σ} :
      fields.find? (·.name == name) = some f → name ∉ seen → Reads (f.put s) v t →
      Fills fields (name :: seen) t rest seen' s' → Fills fields seen s ((name, v) :: rest) seen' s'

theorem Fills.readMembers_eq {fields : List (Field σ)} {seen seen' : List String} {s s' : σ}
    {members : List (String × Value)} (h : Fills fields seen s members seen' s')
    {nodes : List (Key × Node)} (hnodes : List.Forall₂ MemberHolds members nodes) :
    Shape.readMembers fields seen s nodes = .ok (seen', s') := by
  induction h generalizing nodes with
  | nil =>
    cases hnodes
    rfl
  | @cons seen seen' s t s' name v rest f hfind hseen hput _ ih =>
    cases hnodes with
    | cons hm hnodes =>
      obtain ⟨hkey, hn⟩ := hm
      have hread := hput.inside '\x7d' _ hn
      rw [Shape.readMembers, hkey]
      simp only [bind, Except.bind, hfind, hread, List.contains_eq_mem, hseen, decide_false]
      exact ih hnodes

/-- **A record is read from an object** whose members fill it, if none is missing. -/
theorem Fills.reads {shape : Shape σ} {members : List (String × Value)} {seen : List String} {s : σ}
    (h : Fills shape.fields [] shape.blank members seen s)
    (hmissing : Shape.missing? shape.fields seen = none) :
    Reads shape.read (.object members) s := by
  intro n hn
  obtain ⟨start, nodes, ending, rfl, hnodes, hending⟩ := holds_object.mp hn
  rw [Shape.read, h.readMembers_eq hnodes]
  simp only [bind, Except.bind, Ending.guard, hending, hmissing]
  rfl

/-- A record is read from an object with one member. -/
theorem Reads.single {shape : Shape σ} {name : String} {v : Value} {f : Field σ} {s : σ}
    (hfind : shape.fields.find? (·.name == name) = some f) (hput : Reads (f.put shape.blank) v s)
    (hmissing : Shape.missing? shape.fields [name] = none) :
    Reads shape.read (.object [(name, v)]) s :=
  Fills.reads (.cons hfind List.not_mem_nil hput .nil) hmissing

/-- A member that a reader reads is stored. -/
theorem Reads.put {reader : Reader α} {v : Value} {a : α} (h : Reads reader v a) (name : String)
    (presence : Presence) (set : σ → α → σ) (s : σ) :
    Reads ((field name presence reader set).put s) v (set s a) := by
  intro n hn
  show set s <$> reader n = _
  rw [h n hn]
  rfl

end Records

/-! ### Alternatives -/

section Alternatives

variable {α : Type} {options : List (Alternative α)} {name : String}

/-- An alternative without contents is read from its name. -/
theorem reads_bare {a : α} (hfind : options.find? (·.name == name) = some (.bare name a)) :
    Reads (alternative options) (.string name) a := by
  intro n hn
  obtain ⟨start, stop, rfl⟩ := holds_string.mp hn
  rw [alternative, Alternative.choose, hfind]
  rfl

/-- An alternative with contents is read from an object with one member. -/
theorem reads_full {contents : Reader α} {v : Value} {a : α}
    (hfind : options.find? (·.name == name) = some (.full name contents))
    (h : Reads contents v a) : Reads (alternative options) (.object [(name, v)]) a := by
  intro n hn
  obtain ⟨start, nodes, ending, rfl, hnodes, hending⟩ := holds_object.mp hn
  rcases hnodes with _ | ⟨⟨hkey, hm⟩, ⟨⟩⟩
  rw [alternative, hkey]
  simp only [Bool.false_eq_true, if_false, bind, Except.bind, Alternative.choose, hfind,
    Alternative.readContents, h _ hm, Alternative.surplus, hending]
  rfl

end Alternatives

/-! ### What holds of every record -/

/-- The parts of a list or object. -/
def Node.children : Node → List Node
  | .array _ _ items _ => items
  | .object _ _ members _ => members.map Prod.snd
  | _ => []

section Invariants

variable {σ : Type} {shape : Shape σ} {P : σ → Prop} {Q : Node → Prop}

theorem Reader.inside_eq_ok {α : Type} {closer : Char} {reader : Reader α} {n : Node} {a : α} :
    Reader.inside closer reader n = .ok a ↔ reader n = .ok a :=
  mapError_eq_ok

/-- The first member of an object is unknown, or it is read before the others. -/
theorem Shape.readMembers_cons {fields : List (Field σ)} {seen seen' : List String} {s s' : σ}
    {key : Key} {n : Node} {rest : List (Key × Node)}
    (h : readMembers fields seen s ((key, n) :: rest) = .ok (seen', s')) :
    ∃ name, key.name = .ok name ∧
      ((fields.find? (·.name == name) = none ∧ readMembers fields seen s rest = .ok (seen', s')) ∨
        ∃ f t, fields.find? (·.name == name) = some f ∧ name ∉ seen ∧ f.put s n = .ok t ∧
          readMembers fields (name :: seen) t rest = .ok (seen', s')) := by
  rw [readMembers] at h
  obtain ⟨name, hname, h⟩ := bind_eq_ok.mp h
  refine ⟨name, hname, ?_⟩
  split at h
  · next hfind =>
    split at h
    · contradiction
    · exact Or.inl ⟨hfind, h⟩
  · next f hfind =>
    split at h
    · contradiction
    · next hseen =>
      obtain ⟨t, ht, h⟩ := bind_eq_ok.mp h
      rw [List.contains_iff_mem] at hseen
      exact Or.inr ⟨f, t, hfind, hseen, Reader.inside_eq_ok.mp ht, h⟩

/-- The members of an object keep what each of them keeps. -/
theorem Shape.readMembers_invariant {fields : List (Field σ)}
    (hput : ∀ f ∈ fields, ∀ s n t, Q n → P s → f.put s n = .ok t → P t) {seen seen' : List String}
    {s s' : σ} {members : List (Key × Node)} (hmembers : ∀ m ∈ members, Q m.2) (hs : P s)
    (h : readMembers fields seen s members = .ok (seen', s')) : P s' := by
  induction members generalizing seen s with
  | nil =>
    obtain ⟨-, rfl⟩ := Prod.mk.inj (Except.ok.inj h)
    exact hs
  | cons m members ih =>
    have hrest : ∀ m ∈ members, Q m.2 := fun k hk => hmembers k (List.mem_cons_of_mem m hk)
    obtain ⟨name, -, ⟨-, h⟩ | ⟨f, t, hfind, -, ht, h⟩⟩ := readMembers_cons h
    · exact ih hrest hs h
    · have hm : Q m.2 := hmembers m List.mem_cons_self
      exact ih hrest (hput f (List.mem_of_find?_eq_some hfind) s m.2 t hm hs ht) h

/-- So do the elements of a list. -/
theorem Shape.readElements_invariant {fields : List (Field σ)}
    (hput : ∀ f ∈ fields, ∀ s n t, Q n → P s → f.put s n = .ok t → P t) {read : Nat} {s s' : σ}
    {items : List Node} {ending : Ending} (hitems : ∀ n ∈ items, Q n) (hs : P s)
    (h : shape.readElements read fields s items ending = .ok s') : P s' := by
  induction fields generalizing read s items with
  | nil =>
    rw [readElements] at h
    split at h
    · contradiction
    · obtain rfl := Except.ok.inj h
      exact hs
  | cons f fields ih =>
    have hrest : ∀ f ∈ fields, ∀ s n t, Q n → P s → f.put s n = .ok t → P t :=
      fun g hg => hput g (List.mem_cons_of_mem f hg)
    cases items with
    | cons n items =>
      rw [readElements] at h
      obtain ⟨t, ht, h⟩ := bind_eq_ok.mp h
      have hn : Q n := hitems n List.mem_cons_self
      exact ih hrest (fun k hk => hitems k (List.mem_cons_of_mem n hk))
        (hput f List.mem_cons_self s n t hn hs (Reader.inside_eq_ok.mp ht)) h
    | nil =>
      rw [readElements] at h
      split at h
      · contradiction
      split at h
      · exact ih hrest hitems hs h
      · contradiction

/-- **What every member that is read keeps** holds of the record, whether it is written as an
object or as a list. -/
theorem Shape.read_invariant (hblank : P shape.blank)
    (hput : ∀ f ∈ shape.fields, ∀ s n t, Q n → P s → f.put s n = .ok t → P t) {n : Node} {s : σ}
    (hchildren : ∀ k ∈ n.children, Q k) (h : shape.read n = .ok s) : P s := by
  cases n with
  | object start deep members ending =>
    rw [read] at h
    split at h
    · contradiction
    · obtain ⟨⟨seen, t⟩, hread, h⟩ := bind_eq_ok.mp h
      obtain ⟨u, hguard, h⟩ := bind_eq_ok.mp h
      have ht : P t := readMembers_invariant hput
        (fun m hm => hchildren m.2 (List.mem_map_of_mem hm)) hblank hread
      split at h
      · contradiction
      · obtain rfl := Except.ok.inj h
        -- the guard that closes the object changes nothing of what was read
        obtain ⟨-, rfl⟩ := Ending.guard_eq_ok.mp hguard
        exact ht
  | array start deep items ending =>
    rw [read] at h
    split at h
    · contradiction
    · exact readElements_invariant hput hchildren hblank (mapError_eq_ok.mp h)
  | _ => contradiction

end Invariants

/-- What is read where `null` may stand is read by the reader of what is not `null`. -/
theorem of_optional_eq_some {α : Type} {reader : Reader α} {n : Node} {a : α}
    (h : Reader.optional reader n = .ok (some a)) : reader n = .ok a := by
  cases n with
  | null => exact absurd (Except.ok.inj h) (Option.some_ne_none a).symm
  | _ =>
    obtain ⟨b, hb, hsome⟩ := map_eq_ok.mp h
    obtain rfl := Option.some.inj hsome
    exact hb

/-- Names that are added to distinct ones stay distinct. -/
theorem nodup_of_entriesFrom {α : Type} {reader : Reader α} {before entries : List (String × α)}
    {members : List (Key × Node)} (hbefore : (before.map Prod.fst).Nodup)
    (h : Reader.entriesFrom reader before members = .ok entries) :
    (entries.map Prod.fst).Nodup := by
  induction members generalizing before with
  | nil =>
    obtain rfl := Except.ok.inj h
    rw [List.map_reverse]
    exact List.nodup_reverse.mpr hbefore
  | cons m members ih =>
    obtain ⟨key, n⟩ := m
    rw [Reader.entriesFrom] at h
    obtain ⟨name, -, h⟩ := bind_eq_ok.mp h
    obtain ⟨a, -, h⟩ := bind_eq_ok.mp h
    split at h
    · contradiction
    · next hfresh =>
      refine ih ?_ h
      rw [List.map_cons, List.nodup_cons]
      refine ⟨?_, hbefore⟩
      intro hmem
      obtain ⟨e, he, hname⟩ := List.mem_map.mp hmem
      exact hfresh (List.any_eq_true.mpr ⟨e, he, beq_iff_eq.mpr hname⟩)

/-- **No name comes twice** in an object that is read member by member. -/
theorem nodup_of_entries {α : Type} {reader : Reader α} {n : Node} {entries : List (String × α)}
    (h : Reader.entries reader n = .ok entries) : (entries.map Prod.fst).Nodup := by
  cases n with
  | object start deep members ending =>
    rw [Reader.entries] at h
    split at h
    · contradiction
    · obtain ⟨found, hfound, h⟩ := bind_eq_ok.mp h
      obtain ⟨-, rfl⟩ := Ending.guard_eq_ok.mp h
      have hnone : (([] : List (String × α)).map Prod.fst).Nodup := List.nodup_nil
      exact nodup_of_entriesFrom hnone hfound
  | _ => contradiction

end Relata.Json
