import Relata.Proofs.Json.Shape

/-!
# What is read of the parts of a form

A record, a list or an object that is read tells what its text shows. A member of a record is what
the form holds under its name, or at its place where the record is written as a list; a known name
that comes twice is refused. What is read of a value in memory has lost all but the last of the
members with one name, so the part of a form under a name is defined as the last one.

## Main definitions

* `Form.members`, `Form.elements`, `Form.text?` — a form seen as an object, a list or a text.
* `Form.parts`, `Form.part` — the parts of a form under a name, and the last of them.
* `IsMember` — a member of a record; `ReadFrom` — what is read of it.

## Main results

* `IsMember.readFrom` — **a member of a record is read from its only part.**
* `forall₂_of_list`, `forall₂_of_entries` — lists and objects are read one by one.
-/

namespace Relata.Json

/-! ### Parts of a form -/

namespace Form

/-- The members of an object. Nothing else has members. -/
def members : Form → List (Option String × Form)
  | object members => members
  | _ => []

/-- The elements of a list. Nothing else has elements. -/
def elements : Form → List Form
  | array items => items
  | _ => []

/-- The text of a string. -/
def text? : Form → Option String
  | string s => s
  | _ => none

/-- Whether a form is `null`. -/
def isNull : Form → Bool
  | null => true
  | _ => false

/-- The members of an object that have the name. -/
def entries (name : String) (f : Form) : List Form :=
  (f.members.filter (·.1 = some name)).map Prod.snd

/-- The parts of a record under a name, which is the one at `place` if the record is written as a
list. -/
def parts (name : String) (place : Nat) (f : Form) : List Form :=
  f.entries name ++ f.elements[place]?.toList

/-- The last of several forms; `null` stands for none. -/
def last (fs : List Form) : Form := fs.getLast?.getD null

/-- The last member of an object that has the name. -/
def entry (name : String) (f : Form) : Form := last (f.entries name)

/-- The last part of a record under a name. -/
def part (name : String) (place : Nat) (f : Form) : Form := last (f.parts name place)

/-- What is no list has the parts of its name. -/
theorem parts_eq_entries (name : String) (place : Nat) {f : Form} (h : f.elements = []) :
    f.parts name place = f.entries name := by
  rw [parts, h]
  exact List.append_nil _

/-- Only an object has members. -/
theorem elements_eq_nil_of_entries {name : String} {f : Form} (h : f.entries name ≠ []) :
    f.elements = [] := by
  cases f with
  | array => exact absurd rfl h
  | _ => rfl

theorem isNull_eq_true {f : Form} : f.isNull = true ↔ f = null := by
  cases f <;> simp [isNull]

end Form

/-! ### Simple readers -/

section Readers

variable {α : Type} {reader : Reader α} {f : Form} {n : Node}

theorem text?_of_text {s : String} (hn : Shows f n) (h : Reader.text n = .ok s) :
    f.text? = some s := by
  cases hn with
  | string t start stop =>
    obtain rfl : t = s := Except.ok.inj h
    rfl
  | _ => contradiction

/-- `null` is read as nothing, and nothing else is. -/
theorem optional_eq_ok {o : Option α} (hn : Shows f n) (h : Reader.optional reader n = .ok o) :
    (f = .null ∧ o = none) ∨ (f ≠ .null ∧ ∃ a, o = some a ∧ reader n = .ok a) := by
  have hsome : some <$> reader n = .ok o → ∃ a, o = some a ∧ reader n = .ok a := by
    intro h
    obtain ⟨a, ha, rfl⟩ := map_eq_ok.mp h
    exact ⟨a, rfl, ha⟩
  cases hn with
  | null => exact Or.inl ⟨rfl, (Except.ok.inj h).symm⟩
  | _ => exact Or.inr ⟨by simp, hsome h⟩

/-- The elements of a list are read one by one. -/
theorem forall₂_of_elements {items : List Form} {nodes : List Node} {as : List α}
    (hnodes : List.Forall₂ Shows items nodes) (h : Reader.elements reader nodes = .ok as) :
    List.Forall₂ (fun g a => ∃ k, Shows g k ∧ reader k = .ok a) items as := by
  induction hnodes generalizing as with
  | nil =>
    obtain rfl := Except.ok.inj h
    exact .nil
  | cons hn _ ih =>
    obtain ⟨a, ha, h⟩ := bind_eq_ok.mp h
    obtain ⟨rest, hrest, h⟩ := bind_eq_ok.mp h
    obtain rfl := Except.ok.inj h
    exact .cons ⟨_, hn, Reader.inside_eq_ok.mp ha⟩ (ih hrest)

/-- A list is read element by element. -/
theorem forall₂_of_list {as : List α} (hn : Shows f n) (h : Reader.list reader n = .ok as) :
    List.Forall₂ (fun g a => ∃ k, Shows g k ∧ reader k = .ok a) f.elements as := by
  cases hn with
  | array hnodes hending =>
    obtain ⟨_, helements, h⟩ := bind_eq_ok.mp h
    obtain ⟨-, rfl⟩ := Ending.guard_eq_ok.mp h
    exact forall₂_of_elements hnodes helements
  | _ => contradiction

/-- A member of an object that is read as a named value. -/
def EntryRead (reader : Reader α) (m : Option String × Form) (e : String × α) : Prop :=
  m.1 = some e.1 ∧ ∃ k, Shows m.2 k ∧ reader k = .ok e.2

theorem forall₂_of_entriesFrom {members : List (Option String × Form)} {nodes : List (Key × Node)}
    {before entries : List (String × α)} (hnodes : List.Forall₂ (NamedShows Shows) members nodes)
    (h : Reader.entriesFrom reader before nodes = .ok entries) :
    ∃ found, entries = before.reverse ++ found ∧
      List.Forall₂ (EntryRead reader) members found := by
  induction hnodes generalizing before with
  | nil =>
    obtain rfl := Except.ok.inj h
    exact ⟨[], (List.append_nil _).symm, .nil⟩
  | cons hm _ ih =>
    cases hm with
    | mk hkey hn =>
      obtain ⟨name, hname, h⟩ := bind_eq_ok.mp h
      obtain ⟨a, ha, h⟩ := bind_eq_ok.mp h
      split at h
      · contradiction
      · obtain ⟨found, rfl, hfound⟩ := ih h
        refine ⟨(name, a) :: found, by simp, .cons ⟨?_, _, hn, Reader.inside_eq_ok.mp ha⟩ hfound⟩
        rw [← hkey]
        exact toOption_eq_some.mpr hname

/-- **An object is read member by member**, in the order of the text. -/
theorem forall₂_of_entries {entries : List (String × α)} (hn : Shows f n)
    (h : Reader.entries reader n = .ok entries) :
    List.Forall₂ (EntryRead reader) f.members entries := by
  cases hn with
  | object hnodes hending =>
    obtain ⟨_, hentries, h⟩ := bind_eq_ok.mp h
    obtain ⟨-, rfl⟩ := Ending.guard_eq_ok.mp h
    obtain ⟨found, rfl, hfound⟩ := forall₂_of_entriesFrom hnodes hentries
    exact hfound
  | _ => contradiction

/-- The names of an object that is read come once each. -/
theorem nodup_members_of_entries {entries : List (String × α)} (hn : Shows f n)
    (h : Reader.entries reader n = .ok entries) : (f.members.map Prod.fst).Nodup := by
  have hnames : f.members.map Prod.fst = (entries.map Prod.fst).map some := by
    have hentries := forall₂_of_entries hn h
    rw [List.map_map, ← List.forall₂_eq_eq_eq, List.forall₂_map_left_iff,
      List.forall₂_map_right_iff]
    exact hentries.imp fun _ _ he => he.1
  rw [hnames]
  exact (nodup_of_entries h).map fun _ _ => Option.some.inj

end Readers

/-! ### Members of records -/

section Records

variable {σ α : Type} {shape : Shape σ} {name : String} {place : Nat} {presence : Presence}
  {reader : Reader α} {get : σ → α}

/-- A member with another name, which stores nothing that `get` gives. -/
def LeavesAlone (name : String) (get : σ → α) (g : Field σ) : Prop :=
  g.name ≠ name ∧ ∀ s n t, g.put s n = .ok t → get t = get s

theorem leavesAlone_field {β : Type} {other : String} {presence : Presence} {reader : Reader β}
    {set : σ → β → σ} (hname : other ≠ name) (hset : ∀ s b, get (set s b) = get s) :
    LeavesAlone name get (field other presence reader set) := by
  refine ⟨hname, fun s n t h => ?_⟩
  obtain ⟨b, -, rfl⟩ := map_eq_ok.mp h
  exact hset s b

/-- A member of a record: `reader` reads it, from the place `place` if the record is written as a
list, and `get` gives what was read. -/
inductive IsMember (shape : Shape σ) (name : String) (place : Nat) (presence : Presence)
    (reader : Reader α) (get : σ → α) : Prop
  | mk (before after : List (Field σ)) {set : σ → α → σ} :
      shape.fields = before ++ field name presence reader set :: after → before.length = place →
      (∀ s a, get (set s a) = a) → (∀ g ∈ before ++ after, LeavesAlone name get g) →
      IsMember shape name place presence reader get

/-- What is read of the parts of a record under one name: there is at most one, and if there is none
the record keeps what it starts with. -/
inductive ReadFrom (reader : Reader α) (presence : Presence) (blank : α) : List Form → α → Prop
  | only {f : Form} {n : Node} {a : α} : Shows f n → reader n = .ok a →
      ReadFrom reader presence blank [f] a
  | absent : presence ≠ .required → ReadFrom reader presence blank [] blank

namespace Shape

variable {fields : List (Field σ)} {seen seen' : List String} {s s' : σ}
  {members : List (Option String × Form)} {nodes : List (Key × Node)}

/-- A name that was seen does not come again, and what was read under it stays. -/
theorem readMembers_of_seen
    (hothers : ∀ g ∈ fields, g.name ≠ name → LeavesAlone name get g)
    {f : Field σ} (hfind : fields.find? (·.name == name) = some f) (hseen : name ∈ seen)
    (hnodes : List.Forall₂ (NamedShows Shows) members nodes)
    (h : readMembers fields seen s nodes = .ok (seen', s')) :
    members.filter (·.1 = some name) = [] ∧ get s' = get s ∧ name ∈ seen' := by
  induction hnodes generalizing seen s with
  | nil =>
    obtain ⟨rfl, rfl⟩ := Prod.mk.inj (Except.ok.inj h)
    exact ⟨rfl, rfl, hseen⟩
  | cons hm _ ih =>
    cases hm with
    | mk hkey hn =>
      obtain ⟨other, hother, h⟩ := readMembers_cons h
      rw [toOption_eq_some.mpr hother] at hkey
      subst hkey
      rcases h with ⟨hnone, h⟩ | ⟨g, t, hg, hfresh, ht, h⟩
      · have hne : other ≠ name := by
          rintro rfl
          rw [hfind] at hnone
          contradiction
        rw [List.filter_cons_of_neg (by simpa using hne)]
        exact ih hseen h
      · have hne : other ≠ name := fun heq => hfresh (heq ▸ hseen)
        have hgname : g.name = other := by simpa using List.find?_some hg
        obtain ⟨hnil, hget, hmem⟩ := ih (List.mem_cons_of_mem other hseen) h
        rw [List.filter_cons_of_neg (by simpa using hne)]
        refine ⟨hnil, ?_, hmem⟩
        rw [hget]
        exact (hothers g (List.mem_of_find?_eq_some hg) (by rwa [hgname])).2 s _ t ht

/-- A name that was not seen comes once or not at all. -/
theorem readMembers_of_notMem {set : σ → α → σ} (hset : ∀ s a, get (set s a) = a)
    (hothers : ∀ g ∈ fields, g.name ≠ name → LeavesAlone name get g)
    (hfind : fields.find? (·.name == name) = some (field name presence reader set))
    (hfresh : name ∉ seen) (hnodes : List.Forall₂ (NamedShows Shows) members nodes)
    (h : readMembers fields seen s nodes = .ok (seen', s')) :
    (∃ m n, members.filter (·.1 = some name) = [m] ∧ Shows m.2 n ∧ reader n = .ok (get s')) ∨
      (members.filter (·.1 = some name) = [] ∧ get s' = get s ∧ name ∉ seen') := by
  induction hnodes generalizing seen s with
  | nil =>
    obtain ⟨rfl, rfl⟩ := Prod.mk.inj (Except.ok.inj h)
    exact Or.inr ⟨rfl, rfl, hfresh⟩
  | @cons m k members nodes hm hrest ih =>
    cases hm with
    | @mk _ g key n hkey hn =>
      obtain ⟨other, hother, h⟩ := readMembers_cons h
      rw [toOption_eq_some.mpr hother] at hkey
      subst hkey
      rcases h with ⟨hnone, h⟩ | ⟨f, t, hf, -, ht, h⟩
      · have hne : other ≠ name := by
          rintro rfl
          rw [hfind] at hnone
          contradiction
        rw [List.filter_cons_of_neg (by simpa using hne)]
        exact ih hfresh h
      · by_cases hname : other = name
        · subst hname
          obtain rfl : field other presence reader set = f := by
            rw [hfind] at hf
            exact Option.some.inj hf
          obtain ⟨a, ha, rfl⟩ := map_eq_ok.mp ht
          -- from here on the name is seen, so no member behind is read under it
          obtain ⟨hnil, hget, -⟩ :=
            readMembers_of_seen hothers hfind List.mem_cons_self hrest h
          rw [List.filter_cons_of_pos (by simp), hnil, hget, hset]
          exact Or.inl ⟨_, n, rfl, hn, ha⟩
        · have hfname : f.name = other := by simpa using List.find?_some hf
          have hget : get t = get s :=
            (hothers f (List.mem_of_find?_eq_some hf) (by rwa [hfname])).2 s n t ht
          rw [List.filter_cons_of_neg (by simpa using hname), ← hget]
          refine ih ?_ h
          rw [List.mem_cons, not_or]
          exact ⟨Ne.symm hname, hfresh⟩

/-- The first element of a list is read into the first member, and the elements behind it leave
that member alone. -/
theorem readElements_head {after : List (Field σ)} {set : σ → α → σ} {read : Nat}
    {items : List Form} {nodes : List Node} {ending : Ending} (hset : ∀ s a, get (set s a) = a)
    (hafter : ∀ g ∈ after, LeavesAlone name get g) (hnodes : List.Forall₂ Shows items nodes)
    (h : shape.readElements read (field name presence reader set :: after) s nodes ending =
      .ok s') :
    ReadFrom reader presence (get s) items[0]?.toList (get s') := by
  have hkeeps : ∀ c, ∀ g ∈ after, ∀ s n t, True → get s = c →
      g.put s n = .ok t → get t = c :=
    fun c g hg s n t _ hs ht => ((hafter g hg).2 s n t ht).trans hs
  cases hnodes with
  | nil =>
    rw [readElements] at h
    split at h
    · contradiction
    split at h
    · next hpresence =>
      have hget : get s' = get s :=
        readElements_invariant (hkeeps (get s)) (fun _ _ => trivial) rfl h
      rw [hget]
      refine .absent ?_
      rintro rfl
      contradiction
    · contradiction
  | cons hn hrest =>
    rw [readElements] at h
    obtain ⟨t, ht, h⟩ := bind_eq_ok.mp h
    obtain ⟨a, ha, rfl⟩ := map_eq_ok.mp (Reader.inside_eq_ok.mp ht)
    have hget : get s' = a :=
      readElements_invariant (hkeeps a) (fun _ _ => trivial) (hset s a) h
    rw [hget]
    exact .only hn ha

/-- The elements of a list are read into the members in order; the member behind `before` is read
from the element behind as many. -/
theorem readElements_readFrom {before after : List (Field σ)} {set : σ → α → σ} {read : Nat}
    {items : List Form} {nodes : List Node} {ending : Ending} (hset : ∀ s a, get (set s a) = a)
    (hothers : ∀ g ∈ before ++ after, LeavesAlone name get g)
    (hnodes : List.Forall₂ Shows items nodes)
    (h : shape.readElements read (before ++ field name presence reader set :: after) s nodes
      ending = .ok s') :
    ReadFrom reader presence (get s) items[before.length]?.toList (get s') := by
  induction before generalizing read s items nodes with
  | nil => exact readElements_head hset hothers hnodes h
  | cons g before ih =>
    rw [List.cons_append, List.forall_mem_cons] at hothers
    obtain ⟨hg, hothers⟩ := hothers
    rw [List.cons_append] at h
    cases hnodes with
    | nil =>
      rw [readElements] at h
      split at h
      · contradiction
      split at h
      · exact ih hothers .nil h
      · contradiction
    | cons hn hnodes =>
      rw [readElements] at h
      obtain ⟨t, ht, h⟩ := bind_eq_ok.mp h
      rw [← hg.2 s _ t (Reader.inside_eq_ok.mp ht)]
      exact ih hothers hnodes h

end Shape

namespace IsMember

theorem find?_eq (hmember : IsMember shape name place presence reader get) :
    ∃ set, shape.fields.find? (·.name == name) = some (field name presence reader set) ∧
      ∀ s a, get (set s a) = a := by
  obtain ⟨before, after, hfields, -, hset, hothers⟩ := hmember
  refine ⟨_, ?_, hset⟩
  have hnone : before.find? (·.name == name) = none := by
    rw [List.find?_eq_none]
    intro g hg hname
    exact (hothers g (List.mem_append_left after hg)).1 (by simpa using hname)
  rw [hfields, List.find?_append, hnone, Option.none_or]
  exact List.find?_cons_of_pos (beq_self_eq_true name)

/-- The members with other names. -/
theorem leavesAlone (hmember : IsMember shape name place presence reader get) {g : Field σ}
    (hg : g ∈ shape.fields) (hname : g.name ≠ name) : LeavesAlone name get g := by
  obtain ⟨before, after, hfields, -, -, hothers⟩ := hmember
  rw [hfields, List.mem_append, List.mem_cons] at hg
  rcases hg with hg | rfl | hg
  · exact hothers g (List.mem_append_left after hg)
  · exact absurd rfl hname
  · exact hothers g (List.mem_append_right before hg)

/-- A member that was not there need not be. -/
theorem not_required (hmember : IsMember shape name place presence reader get) {seen : List String}
    (hseen : name ∉ seen) (hmissing : Shape.missing? shape.fields seen = none) :
    presence ≠ .required := by
  obtain ⟨set, hfind, -⟩ := hmember.find?_eq
  have hmem := List.mem_of_find?_eq_some hfind
  rw [Shape.missing?, Option.map_eq_none_iff, List.find?_eq_none] at hmissing
  rintro rfl
  exact hmissing _ hmem (by simpa [field] using hseen)

/-- **A member of a record is read from its only part**, by its name in an object and from its place
in a list. -/
theorem readFrom (hmember : IsMember shape name place presence reader get) {f : Form} {n : Node}
    {s : σ} (hn : Shows f n) (h : shape.read n = .ok s) :
    ReadFrom reader presence (get shape.blank) (f.parts name place) (get s) := by
  cases hn with
  | @object members nodes start ending hnodes hending =>
    obtain ⟨⟨seen, t⟩, hread, h⟩ := bind_eq_ok.mp h
    obtain ⟨u, hguard, h⟩ := bind_eq_ok.mp h
    obtain ⟨-, rfl⟩ := Ending.guard_eq_ok.mp hguard
    split at h
    · contradiction
    · next hmissing =>
      obtain rfl := Except.ok.inj h
      obtain ⟨set, hfind, hset⟩ := hmember.find?_eq
      rw [Form.parts_eq_entries name place rfl, Form.entries, Form.members]
      rcases Shape.readMembers_of_notMem hset (fun _ => hmember.leavesAlone) hfind List.not_mem_nil
        hnodes hread with ⟨m, k, hone, hm, hk⟩ | ⟨hnil, hget, hseen⟩
      · rw [hone]
        exact .only hm hk
      · rw [hnil, hget]
        exact .absent (hmember.not_required hseen hmissing)
  | @array items nodes start ending hnodes hending =>
    obtain ⟨before, after, hfields, rfl, hset, hothers⟩ := hmember
    have hread := mapError_eq_ok.mp h
    rw [hfields] at hread
    exact Shape.readElements_readFrom hset hothers hnodes hread
  | _ => contradiction

end IsMember

namespace ReadFrom

variable {f : Form}

/-- A required part is there. -/
theorem of_required {blank a : α} (h : ReadFrom reader .required blank (f.parts name place) a) :
    f.parts name place = [f.part name place] ∧
      ∃ n, Shows (f.part name place) n ∧ reader n = .ok a := by
  rw [Form.part]
  generalize f.parts name place = fs at h
  cases h with
  | only hn ha => exact ⟨rfl, _, hn, ha⟩
  | absent hpresence => contradiction

/-- A part that may be `null` is read from what is not `null`. -/
theorem of_optional {o : Option α}
    (h : ReadFrom (Reader.optional reader) presence none (f.parts name place) o) :
    (f.part name place = .null ∧ o = none) ∨
      (f.part name place ≠ .null ∧
        ∃ a n, o = some a ∧ Shows (f.part name place) n ∧ reader n = .ok a) := by
  rw [Form.part]
  generalize f.parts name place = fs at h
  cases h with
  | @only g n a hn ha =>
    rcases optional_eq_ok hn ha with ⟨rfl, rfl⟩ | ⟨hne, a, rfl, hread⟩
    · exact Or.inl ⟨rfl, rfl⟩
    · exact Or.inr ⟨hne, a, n, rfl, hn, hread⟩
  | absent _ => exact Or.inl ⟨rfl, rfl⟩

/-- A list that may be absent is read element by element. -/
theorem forall₂_elements {as : List α}
    (h : ReadFrom (Reader.list reader) presence [] (f.parts name place) as) :
    List.Forall₂ (fun g a => ∃ k, Shows g k ∧ reader k = .ok a) (f.part name place).elements as := by
  rw [Form.part]
  generalize f.parts name place = fs at h
  cases h with
  | only hn ha => exact forall₂_of_list hn ha
  | absent _ => exact .nil

/-- A text that may be absent. -/
theorem text?_eq {o : Option String}
    (h : ReadFrom (Reader.optional Reader.text) presence none (f.parts name place) o) :
    (f.part name place).text? = o := by
  rcases h.of_optional with ⟨hnull, rfl⟩ | ⟨-, s, n, rfl, hn, hs⟩
  · rw [hnull]
    rfl
  · exact text?_of_text hn hs

/-- There is one part at most. -/
theorem eq_part {blank a : α} (h : ReadFrom reader presence blank (f.parts name place) a)
    {g : Form} (hg : g ∈ f.parts name place) : g = f.part name place := by
  rw [Form.part]
  generalize f.parts name place = fs at h hg
  cases h with
  | only => exact List.mem_singleton.mp hg
  | absent _ => contradiction

end ReadFrom

end Records

end Relata.Json
