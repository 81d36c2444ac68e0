import Relata.Proofs.Json.Part

/-!
# What is left of a form in memory

A part that is kept as a value loses its offsets and, of members with one name, all but the last.
The value has a form again. Under every name, and at every place of a list, it holds what is left of
the last part that the text holds there.

## Main definitions

* `Leaves` — what is left of a form in memory.

## Main results

* `Leaves.elements`, `Leaves.part` — **parts of what is left are what is left of the parts.**
* `Leaves.lookup` — what is looked up in memory.
* `get?_eq_none_iff` — a name is in memory if and only if it is in the text.
-/

namespace Relata.Json

open Form (last)

/-- `g` is left of `f` in memory: the form of the value that a part has which shows `f`. -/
def Leaves (f g : Form) : Prop := ∃ n v, Shows f n ∧ n.value = .ok v ∧ g = v.form

/-- A named value is what is left of a member. -/
def MemberLeaves (m : Option String × Form) (e : String × Value) : Prop :=
  m.1 = some e.1 ∧ Leaves m.2 e.2.form

theorem leaves_null : Leaves .null .null := ⟨.null 0 0, .null, .null 0 0, rfl, rfl⟩

/-! ### Lists and objects -/

section Parts

variable {start : Nat} {ending : Ending} {v : Value}

theorem leaves_of_values {items : List Form} {nodes : List Node} {vs : List Value}
    (hnodes : List.Forall₂ Shows items nodes)
    (hvs : List.Forall₂ (fun n v => n.value = .ok v) nodes vs) :
    List.Forall₂ Leaves items (Value.forms vs) := by
  induction hnodes generalizing vs with
  | nil =>
    cases hvs
    exact .nil
  | cons hn _ ih =>
    cases hvs with
    | cons hv hrest => exact .cons ⟨_, _, hn, hv, rfl⟩ (ih hrest)

theorem leaves_of_members {members : List (Option String × Form)} {nodes : List (Key × Node)}
    {found : List (String × Value)} (hnodes : List.Forall₂ (NamedShows Shows) members nodes)
    (hfound : List.Forall₂ HasMember nodes found) : List.Forall₂ MemberLeaves members found := by
  induction hnodes generalizing found with
  | nil =>
    cases hfound
    exact .nil
  | cons hm _ ih =>
    cases hfound with
    | cons hv hrest =>
      obtain ⟨hname, hvalue⟩ := hv
      cases hm with
      | mk hkey hn =>
        refine .cons ⟨?_, _, _, hn, hvalue, rfl⟩ (ih hrest)
        rw [← hkey]
        exact toOption_eq_some.mpr hname

/-- What stands under a name corresponds, before anything is lost. -/
theorem forall₂_filter {members : List (Option String × Form)} {found : List (String × Value)}
    (h : List.Forall₂ MemberLeaves members found) (name : String) :
    List.Forall₂ Leaves ((members.filter (·.1 = some name)).map Prod.snd)
      ((found.filter (·.1 = name)).map fun m => m.2.form) := by
  rw [List.forall₂_map_left_iff, List.forall₂_map_right_iff]
  induction h with
  | nil => exact .nil
  | @cons m e members found hm _ ih =>
    by_cases hname : e.1 = name
    · have hsome : m.1 = some name := by rw [hm.1, hname]
      rw [List.filter_cons_of_pos (by simpa using hsome),
        List.filter_cons_of_pos (by simpa using hname)]
      exact .cons hm.2 ih
    · have hne : m.1 ≠ some name := by
        rw [hm.1]
        exact fun heq => hname (Option.some.inj heq)
      rw [List.filter_cons_of_neg (by simpa using hne),
        List.filter_cons_of_neg (by simpa using hname)]
      exact ih

/-- What is looked up is the last of the members that were added with the name. -/
theorem lookup_insertAll_form (name : String) (found : List (String × Value)) :
    (((Value.insertAll [] found).lookup name).map Value.form).getD .null =
      last ((found.filter (·.1 = name)).map fun m => m.2.form) := by
  rw [Value.lookup_insertAll, List.lookup_nil, Option.or_none, Option.map_map, last,
    List.getLast?_map]
  rfl

/-- The value of an object holds under a name what is looked up. -/
theorem entry_object {members : List (String × Value)} (h : (members.map Prod.fst).Nodup)
    (name : String) : (Value.object members).form.entry name =
      ((members.lookup name).map Value.form).getD .null := by
  have hentries : (Value.object members).form.entries name =
      (members.filter (·.1 = name)).map fun m => m.2.form := by
    rw [Value.form, Value.memberForms_eq_map, Form.entries, Form.members, List.filter_map,
      List.map_map]
    simp [Value.memberForm, Function.comp_def]
  rw [← Value.getLast?_filter_eq_lookup h, Form.entry, hentries, last, List.getLast?_map,
    Option.map_map]
  rfl

end Parts

/-- What is left, by cases: literals are left as they are, lists element by element, and objects as
the values that were put together from their members. -/
inductive LeavesBy : Form → Form → Prop
  | literal {f : Form} : f.members = [] → f.elements = [] → LeavesBy f f
  | array {items gs : List Form} : List.Forall₂ Leaves items gs →
      LeavesBy (.array items) (.array gs)
  | object {members : List (Option String × Form)} {found : List (String × Value)} :
      List.Forall₂ MemberLeaves members found →
      LeavesBy (.object members) (Value.object (Value.insertAll [] found)).form

theorem Leaves.by_cases {f g : Form} (h : Leaves f g) : LeavesBy f g := by
  obtain ⟨n, v, hn, hv, rfl⟩ := h
  cases hn with
  | array hnodes hending =>
    obtain ⟨-, -, vs, hvs, rfl⟩ := value_array_eq_ok.mp hv
    exact .array (leaves_of_values hnodes hvs)
  | object hnodes hending =>
    obtain ⟨-, -, found, hfound, rfl⟩ := value_object_eq_ok.mp hv
    exact .object (leaves_of_members hnodes hfound)
  | noNumber | noString => contradiction
  | _ =>
    obtain rfl := Except.ok.inj hv
    exact .literal rfl rfl

/-! ### Parts of what is left -/

theorem Leaves.last {fs gs : List Form} (h : List.Forall₂ Leaves fs gs) :
    Leaves (last fs) (last gs) :=
  getLast?_getD_rel h leaves_null

namespace Leaves

variable {f g : Form}

theorem isNull_eq (h : Leaves f g) : g.isNull = f.isNull := by
  cases h.by_cases with
  | literal | array | object => rfl

theorem text?_eq (h : Leaves f g) : g.text? = f.text? := by
  cases h.by_cases with
  | literal | array | object => rfl

theorem elements (h : Leaves f g) : List.Forall₂ Leaves f.elements g.elements := by
  cases h.by_cases with
  | literal _ helements =>
    rw [helements]
    exact .nil
  | array hitems => exact hitems
  | object => exact .nil

/-- **The last member of a name** leaves what is in memory under that name. -/
theorem entry (h : Leaves f g) (name : String) : Leaves (f.entry name) (g.entry name) := by
  cases h.by_cases with
  | literal hmembers _ =>
    rw [Form.entry, Form.entries, hmembers]
    exact leaves_null
  | array => exact leaves_null
  | object hfound =>
    rw [entry_object (Value.nodup_insertAll _), lookup_insertAll_form]
    exact Leaves.last (forall₂_filter hfound name)

/-- **A part of what is left is what is left of the part**, by its name and by its place. -/
theorem part (h : Leaves f g) (name : String) (place : Nat) :
    Leaves (f.part name place) (g.part name place) := by
  cases h.by_cases with
  | literal hmembers helements =>
    rw [Form.part, Form.parts, Form.entries, hmembers, helements]
    exact leaves_null
  | array hitems => exact Leaves.last (forall₂_getElem? hitems place)
  | object hfound =>
    have hentry := h.entry name
    rwa [Form.entry, Form.entry, ← Form.parts_eq_entries name place rfl,
      ← Form.parts_eq_entries name place rfl] at hentry

end Leaves

/-- What is looked up in an object in memory is left of the last member of that name. -/
theorem Leaves.lookup {f : Form} {n : Node} {entries : List (String × Value)} (hn : Shows f n)
    (h : Reader.members n = .ok entries) (name : String) :
    Leaves (f.entry name) (((entries.lookup name).map Value.form).getD .null) := by
  cases hn with
  | object hnodes hending =>
    obtain ⟨_, hentries, h⟩ := bind_eq_ok.mp h
    obtain ⟨-, rfl⟩ := Ending.guard_eq_ok.mp h
    obtain ⟨found, hfound, rfl⟩ := memberValues_eq_ok.mp hentries
    rw [lookup_insertAll_form]
    exact Leaves.last (forall₂_filter (leaves_of_members hnodes hfound) name)
  | _ => contradiction

/-- A name is in memory if and only if it is in the text. -/
theorem get?_eq_none_iff {f : Form} {n : Node} {v : Value} (hn : Shows f n) (hv : n.value = .ok v)
    (name : String) : v.get? name = none ↔ f.entries name = [] := by
  cases hn with
  | array hnodes hending =>
    obtain ⟨-, -, vs, -, rfl⟩ := value_array_eq_ok.mp hv
    exact ⟨fun _ => rfl, fun _ => rfl⟩
  | @object members nodes start ending hnodes hending =>
    obtain ⟨-, -, found, hfound, rfl⟩ := value_object_eq_ok.mp hv
    have hforms := forall₂_filter (leaves_of_members hnodes hfound) name
    have hget : (Value.object (Value.insertAll [] found)).get? name =
        (found.filter (·.1 = name)).getLast?.map Prod.snd := by
      show (Value.insertAll [] found).lookup name = _
      rw [Value.lookup_insertAll, List.lookup_nil, Option.or_none]
    rw [hget, Option.map_eq_none_iff, List.getLast?_eq_none_iff]
    show _ ↔ (members.filter (·.1 = some name)).map Prod.snd = []
    constructor
    · intro hnil
      rw [hnil, List.map_nil, List.forall₂_nil_right_iff] at hforms
      exact hforms
    · intro hnil
      rw [hnil, List.forall₂_nil_left_iff, List.map_eq_nil_iff] at hforms
      exact hforms
  | noNumber | noString => contradiction
  | _ =>
    obtain rfl := Except.ok.inj hv
    exact ⟨fun _ => rfl, fun _ => rfl⟩

end Relata.Json
