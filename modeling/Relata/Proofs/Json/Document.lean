import Relata.Proofs.Json.Form

/-!
# Documents read back

A value of strings, lists and objects is read back from each of its texts, whatever stands between
the tokens. The parts of a document know where they stand, a value does not: what is read back is a
part that holds the value.

## Main definitions

* `IsTextual` — the values of strings, lists and objects; `IsNumberless` — those without numbers.
* `IsLegible` — the values whose numbers are read back from their texts.
* `Value.depth` — how deep lists and objects nest.
* `ValueText`, `DocumentText` — the texts of a value.
* `Value.form` — what the texts of a value show; `Holds` — a part holds a value.

## Main results

* `IsTextual.valueText`, `IsLegible.formText` — the written text is one of the texts.
* `FormDocument.read_form` — **a document of a value is read back.**
-/

namespace Relata.Json

/-! ### Values -/

/-- A value of strings, lists and objects. No object has two members of one name. -/
inductive IsTextual : Value → Prop
  | string (s : String) : IsTextual (.string s)
  | array {items : List Value} : (∀ v ∈ items, IsTextual v) → IsTextual (.array items)
  | object {members : List (String × Value)} : (members.map Prod.fst).Nodup →
      (∀ m ∈ members, IsTextual m.2) → IsTextual (.object members)

/-- A value without numbers. -/
inductive IsNumberless : Value → Prop
  | null : IsNumberless .null
  | bool (b : Bool) : IsNumberless (.bool b)
  | string (s : String) : IsNumberless (.string s)
  | array {items : List Value} : (∀ v ∈ items, IsNumberless v) → IsNumberless (.array items)
  | object {members : List (String × Value)} : (∀ m ∈ members, IsNumberless m.2) →
      IsNumberless (.object members)

@[simp] theorem isNumberless_string (s : String) : IsNumberless (.string s) := .string s

@[simp] theorem isNumberless_array {items : List Value} :
    IsNumberless (.array items) ↔ ∀ v ∈ items, IsNumberless v := by
  constructor
  · rintro (_ | _ | _ | h)
    exact h
  · exact .array

@[simp] theorem isNumberless_object {members : List (String × Value)} :
    IsNumberless (.object members) ↔ ∀ m ∈ members, IsNumberless m.2 := by
  constructor
  · rintro (_ | _ | _ | _ | h)
    exact h
  · exact .object

namespace Value

mutual

/-- How deep lists and objects nest. -/
def depth : Value → Nat
  | array items => depthOf items + 1
  | object members => depthOfMembers members + 1
  | _ => 0

/-- How deep the elements of a list nest. -/
def depthOf : List Value → Nat
  | [] => 0
  | v :: vs => max v.depth (depthOf vs)

/-- How deep the members of an object nest. -/
def depthOfMembers : List (String × Value) → Nat
  | [] => 0
  | (_, v) :: rest => max v.depth (depthOfMembers rest)

end

mutual

/-- What the texts of a value show. -/
def form : Value → Form
  | null => .null
  | bool b => .bool b
  | number n => .number (some n)
  | string s => .string (some s)
  | array items => .array (forms items)
  | object members => .object (memberForms members)

/-- The forms of the elements of a list. -/
def forms : List Value → List Form
  | [] => []
  | v :: vs => v.form :: forms vs

/-- The forms of the members of an object. -/
def memberForms : List (String × Value) → List (Option String × Form)
  | [] => []
  | (name, v) :: rest => (some name, v.form) :: memberForms rest

end

theorem forms_eq_map (items : List Value) : forms items = items.map form := by
  induction items with
  | nil => rfl
  | cons v items ih => rw [forms, ih, List.map_cons]

/-- The form of a member of an object. -/
def memberForm (m : String × Value) : Option String × Form := (some m.1, m.2.form)

theorem memberForms_eq_map (members : List (String × Value)) :
    memberForms members = members.map memberForm := by
  induction members with
  | nil => rfl
  | cons m members ih => rw [memberForms, ih, List.map_cons, memberForm]

mutual

/-- A value nests as deep as its form. -/
theorem depth_form : ∀ v : Value, v.form.depth = v.depth
  | null => rfl
  | bool _ => rfl
  | number _ => rfl
  | string _ => rfl
  | array items => congrArg (· + 1) (depthOf_forms items)
  | object members => congrArg (· + 1) (depthOf_memberForms members)

theorem depthOf_forms : ∀ items : List Value, Form.depthOf (forms items) = depthOf items
  | [] => rfl
  | v :: vs => by rw [forms, Form.depthOf, depth_form v, depthOf_forms vs, depthOf]

theorem depthOf_memberForms : ∀ members : List (String × Value),
    Form.depthOfMembers (memberForms members) = depthOfMembers members
  | [] => rfl
  | (name, v) :: rest => by
    rw [memberForms, Form.depthOfMembers, depth_form v, depthOf_memberForms rest, depthOfMembers]

end

theorem depth_lt_array {items : List Value} {v : Value} (h : v ∈ items) :
    v.depth < (array items).depth := by
  rw [← depth_form v, ← depth_form (array items), form, forms_eq_map]
  exact Form.depth_lt_array (List.mem_map_of_mem h)

theorem depth_lt_object {members : List (String × Value)} {m : String × Value} (h : m ∈ members) :
    m.2.depth < (object members).depth := by
  rw [← depth_form m.2, ← depth_form (object members), form, memberForms_eq_map]
  exact Form.depth_lt_object (List.mem_map_of_mem (f := memberForm) h)

/-- An element of a list that is a member of an object. -/
theorem depth_lt_listed {members : List (String × Value)} (name : String) {items : List Value}
    (hm : (name, array items) ∈ members) {v : Value} (hv : v ∈ items) :
    v.depth < (object members).depth :=
  Nat.lt_trans (depth_lt_array hv) (depth_lt_object hm)

theorem depth_single (name : String) (v : Value) : (object [(name, v)]).depth = v.depth + 1 := by
  rw [depth, depthOfMembers, depthOfMembers, Nat.max_zero]

/-- Two members of an object. -/
theorem depth_lt_pair (name other : String) (v w : Value) :
    v.depth < (object [(name, v), (other, w)]).depth ∧
      w.depth < (object [(name, v), (other, w)]).depth := by
  rw [depth, depthOfMembers, depthOfMembers, depthOfMembers]
  omega

end Value

/-! ### Texts -/

/-- The texts of a member of an object. -/
inductive MemberText (W : Value → List Char → Prop) : String × Value → List Char → Prop
  | mk {name : String} {v : Value} {b₁ b₂ t : List Char} : Between b₁ → Between b₂ → W v t →
      MemberText W (name, v) (stringText name.toList ++ b₁ ++ ':' :: (b₂ ++ t))

/-- The texts of a value of strings, lists and objects. -/
inductive ValueText : Value → List Char → Prop
  | string (s : String) : ValueText (.string s) (stringText s.toList)
  | emptyArray {b : List Char} : Between b → ValueText (.array []) ('[' :: (b ++ [']']))
  | array {items : List Value} {b u : List Char} : Between b → Elements ValueText items u →
      ValueText (.array items) ('[' :: (b ++ u ++ [']']))
  | emptyObject {b : List Char} :
      Between b → ValueText (.object []) ('\x7b' :: (b ++ ['\x7d']))
  | object {members : List (String × Value)} {b u : List Char} :
      Between b → Elements (MemberText ValueText) members u →
      ValueText (.object members) ('\x7b' :: (b ++ u ++ ['\x7d']))

/-- The texts of a document. -/
inductive DocumentText : Value → List Char → Prop
  | mk {v : Value} {b₁ t b₂ : List Char} :
      Between b₁ → ValueText v t → Between b₂ → DocumentText v (b₁ ++ t ++ b₂)

/-- What is written of a list is what is written of its elements. -/
theorem Elements.map {α β : Type} {W : α → List Char → Prop} {W' : β → List Char → Prop}
    {g : α → β} {as : List α} {u : List Char} (hu : Elements W as u)
    (h : ∀ a ∈ as, ∀ t, W a t → W' (g a) t) : Elements W' (as.map g) u := by
  induction hu with
  | single ht hb => exact .single (h _ List.mem_cons_self _ ht) hb
  | cons ht hb₁ hb₂ _ ih =>
    exact .cons (h _ List.mem_cons_self _ ht) hb₁ hb₂
      (ih fun a ha t hat => h a (List.mem_cons_of_mem _ ha) t hat)

/-- A written string literal is a text of its string. -/
theorem stringBody_string (s : String) :
    ∃ parts, StringBody (s.toList.flatMap stringChar) parts ∧ StringPart.string? parts = some s := by
  obtain ⟨parts, hbody, htext⟩ := stringBody_flatMap s.toList
  refine ⟨parts, hbody, ?_⟩
  rw [StringPart.string?, htext, Option.map_some, String.ofList_toList]

theorem formText_string (s : String) : FormText (.string (some s)) (stringText s.toList) := by
  obtain ⟨parts, hbody, hstring⟩ := stringBody_string s
  rw [← hstring]
  exact .string hbody

/-- A named value has the texts of its name and form. -/
theorem MemberText.namedText {W : Value → List Char → Prop} {m : String × Value} {t : List Char}
    (h : MemberText W m t) (hform : ∀ t, W m.2 t → FormText m.2.form t) :
    NamedText FormText (Value.memberForm m) t := by
  cases h with
  | @mk name v b₁ b₂ t hb₁ hb₂ ht =>
    obtain ⟨parts, hbody, hstring⟩ := stringBody_string name
    have hnamed := NamedText.mk hbody hb₁ hb₂ (hform t ht)
    rw [hstring] at hnamed
    rw [Value.memberForm]
    simpa only [stringText, List.cons_append, List.append_assoc, List.nil_append] using hnamed

/-- What a text of a value shows. -/
theorem IsTextual.formText {v : Value} (hv : IsTextual v) {t : List Char} (ht : ValueText v t) :
    FormText v.form t := by
  induction hv generalizing t with
  | string s =>
    cases ht with
    | string => exact formText_string s
  | array _ ih =>
    rw [Value.form, Value.forms_eq_map]
    cases ht with
    | emptyArray hb => exact .emptyArray hb
    | array hb hu => exact .array hb (hu.map fun v hv t ht => ih v hv ht)
  | object _ _ ih =>
    rw [Value.form, Value.memberForms_eq_map]
    cases ht with
    | emptyObject hb => exact .emptyObject hb
    | object hb hu =>
      exact .object hb (hu.map fun m hm t ht => ht.namedText fun t' ht' => ih m hm ht')

/-- A document of a value is one of its form. -/
theorem IsTextual.formDocument {v : Value} (hv : IsTextual v) {s : List Char}
    (h : DocumentText v s) : FormDocument v.form s := by
  cases h with
  | mk hb₁ ht hb₂ => exact .mk hb₁ (hv.formText ht) hb₂

/-! ### The written text -/

section Written

variable {W : Value → List Char → Prop}

theorem elements_itemTexts {items : List Value} (hne : items ≠ []) (h : ∀ v ∈ items, W v v.text) :
    Elements W items (Value.itemTexts items) := by
  induction items with
  | nil => contradiction
  | cons v items ih =>
    have hv : W v v.text := h v List.mem_cons_self
    cases items with
    | nil =>
      have hsingle := Elements.single hv between_nil
      rwa [List.append_nil] at hsingle
    | cons w items =>
      have htail := ih (List.cons_ne_nil w items) fun x hx => h x (List.mem_cons_of_mem v hx)
      have hcons := Elements.cons hv between_nil between_nil htail
      rwa [List.append_nil, List.nil_append] at hcons

theorem elements_memberTexts {members : List (String × Value)} (hne : members ≠ [])
    (h : ∀ m ∈ members, W m.2 m.2.text) :
    Elements (MemberText W) members (Value.memberTexts members) := by
  induction members with
  | nil => contradiction
  | cons m members ih =>
    obtain ⟨name, v⟩ := m
    have hmember : MemberText W (name, v) (stringText name.toList ++ ':' :: v.text) := by
      have hmk : MemberText W (name, v) _ :=
        .mk between_nil between_nil (h (name, v) List.mem_cons_self)
      rwa [List.append_nil, List.nil_append] at hmk
    cases members with
    | nil =>
      have hsingle := Elements.single hmember between_nil
      rwa [List.append_nil] at hsingle
    | cons m' members =>
      have htail := ih (List.cons_ne_nil m' members) fun x hx => h x (List.mem_cons_of_mem _ hx)
      have hcons := Elements.cons hmember between_nil between_nil htail
      rwa [List.append_nil, List.nil_append] at hcons

end Written

/-- The text that is written for a value is one of its texts. -/
theorem IsTextual.valueText {v : Value} (h : IsTextual v) : ValueText v v.text := by
  induction h with
  | string s => exact .string s
  | @array items _ ih =>
    cases items with
    | nil => exact .emptyArray between_nil
    | cons v items =>
      exact .array between_nil (elements_itemTexts (List.cons_ne_nil v items) ih)
  | @object members _ _ ih =>
    cases members with
    | nil => exact .emptyObject between_nil
    | cons m members =>
      exact .object between_nil (elements_memberTexts (List.cons_ne_nil m members) ih)

/-- The text that is written for a value is one of its documents. -/
theorem IsTextual.documentText {v : Value} (h : IsTextual v) :
    DocumentText v v.render.toList := by
  have htext := DocumentText.mk between_nil h.valueText between_nil
  rw [List.append_nil, List.nil_append] at htext
  rwa [Value.render, String.toList_ofList]

/-- A value whose numbers are read back from their texts. Whether a double is depends on how digits
are rounded; all else is read back anyway. -/
inductive IsLegible : Value → Prop
  | null : IsLegible .null
  | bool (b : Bool) : IsLegible (.bool b)
  | number {n : Number} : FormText (.number (some n)) n.text → IsLegible (.number n)
  | string (s : String) : IsLegible (.string s)
  | array {items : List Value} : (∀ v ∈ items, IsLegible v) → IsLegible (.array items)
  | object {members : List (String × Value)} : (∀ m ∈ members, IsLegible m.2) →
      IsLegible (.object members)

theorem IsNumberless.isLegible {v : Value} (h : IsNumberless v) : IsLegible v := by
  induction h with
  | null => exact .null
  | bool b => exact .bool b
  | string s => exact .string s
  | array _ ih => exact .array ih
  | object _ ih => exact .object ih

/-- The text that is written for a value shows its form. -/
theorem IsLegible.formText {v : Value} (h : IsLegible v) : FormText v.form v.text := by
  induction h with
  | null => exact .null
  | bool b =>
    cases b with
    | true => exact .true
    | false => exact .false
  | number hn => exact hn
  | string s => exact formText_string s
  | @array items _ ih =>
    rw [Value.form, Value.forms_eq_map]
    cases items with
    | nil => exact .emptyArray between_nil
    | cons v items =>
      have hu := elements_itemTexts (W := fun v t => FormText v.form t)
        (List.cons_ne_nil v items) ih
      exact .array between_nil (hu.map fun _ _ _ ht => ht)
  | @object members _ ih =>
    rw [Value.form, Value.memberForms_eq_map]
    cases members with
    | nil => exact .emptyObject between_nil
    | cons m members =>
      have hu := elements_memberTexts (W := fun v t => FormText v.form t)
        (List.cons_ne_nil m members) ih
      exact .object between_nil (hu.map fun _ _ _ ht => ht.namedText fun _ ht' => ht')

theorem IsLegible.formDocument {v : Value} (h : IsLegible v) :
    FormDocument v.form v.render.toList := by
  have htext := FormDocument.mk between_nil h.formText between_nil
  rw [List.append_nil, List.nil_append] at htext
  rwa [Value.render, String.toList_ofList]

theorem IsNumberless.formDocument {v : Value} (h : IsNumberless v) :
    FormDocument v.form v.render.toList :=
  h.isLegible.formDocument

/-! ### Parts that hold a value -/

/-- A part that holds a value, wherever it stands: it shows what the texts of the value show. -/
def Holds (v : Value) (n : Node) : Prop := Shows v.form n

/-- A member of an object that holds a named value. -/
def MemberHolds (m : String × Value) (k : Key × Node) : Prop :=
  k.1.name = .ok m.1 ∧ Holds m.2 k.2

section Parts

variable {n : Node}

theorem holds_null : Holds .null n ↔ ∃ start stop, n = .null start stop := by
  constructor
  · intro h
    cases h with
    | null start stop => exact ⟨start, stop, rfl⟩
  · rintro ⟨start, stop, rfl⟩
    exact .null start stop

theorem holds_string {s : String} : Holds (.string s) n ↔ ∃ start stop, n = .string start stop s := by
  constructor
  · intro h
    cases h with
    | string _ start stop => exact ⟨start, stop, rfl⟩
  · rintro ⟨start, stop, rfl⟩
    exact .string s start stop

theorem holds_array {items : List Value} : Holds (.array items) n ↔
    ∃ start nodes ending, n = .array start false nodes ending ∧
      List.Forall₂ Holds items nodes ∧ ending.broken? = none := by
  rw [Holds, Value.form, Value.forms_eq_map]
  constructor
  · intro h
    cases h with
    | array hnodes hending =>
      rw [List.forall₂_map_left_iff] at hnodes
      exact ⟨_, _, _, rfl, hnodes, hending⟩
  · rintro ⟨start, nodes, ending, rfl, hnodes, hending⟩
    exact .array (List.forall₂_map_left_iff.mpr hnodes) hending

theorem memberHolds_iff {m : String × Value} {k : Key × Node} :
    NamedShows Shows (Value.memberForm m) k ↔ MemberHolds m k := by
  constructor
  · intro h
    cases h with
    | mk hkey hn => exact ⟨toOption_eq_some.mp hkey, hn⟩
  · intro h
    exact .mk (toOption_eq_some.mpr h.1) h.2

theorem holds_object {members : List (String × Value)} : Holds (.object members) n ↔
    ∃ start nodes ending, n = .object start false nodes ending ∧
      List.Forall₂ MemberHolds members nodes ∧ ending.broken? = none := by
  rw [Holds, Value.form, Value.memberForms_eq_map]
  constructor
  · intro h
    cases h with
    | object hnodes hending =>
      rw [List.forall₂_map_left_iff] at hnodes
      exact ⟨_, _, _, rfl, hnodes.imp fun _ _ => memberHolds_iff.mp, hending⟩
  · rintro ⟨start, nodes, ending, rfl, hnodes, hending⟩
    exact .object (List.forall₂_map_left_iff.mpr (hnodes.imp fun _ _ => memberHolds_iff.mpr))
      hending

end Parts

/-- **A document of a value is read back**, and nothing stands behind it. -/
theorem FormDocument.read_form {v : Value} {s : List Char} (h : FormDocument v.form s)
    (hdepth : v.depth ≤ nestingLimit) : ∃ n, Document.read s = ⟨s, n, none⟩ ∧ Holds v n :=
  h.read (by rwa [v.depth_form])

/-- A document of strings, lists and objects is read back. -/
theorem DocumentText.read {v : Value} {s : List Char} (h : DocumentText v s) (hv : IsTextual v)
    (hdepth : v.depth ≤ nestingLimit) : ∃ n, Document.read s = ⟨s, n, none⟩ ∧ Holds v n :=
  (hv.formDocument h).read_form hdepth

/-- With nothing behind the value, a document is read as its value is. -/
theorem Document.run_eq {α : Type} (s : List Char) (n : Node) (reader : Node → Except Failure α) :
    Document.run ⟨s, n, none⟩ reader = reader n := by
  rw [Document.run]
  cases reader n with
  | error f => rfl
  | ok a => rfl

/-! ### What is held -/

/-- The members of an object have the values that they hold. -/
theorem forall₂_hasMember {members : List (String × Value)} {nodes : List (Key × Node)}
    (h : List.Forall₂ MemberHolds members nodes)
    (hvalue : ∀ m ∈ members, ∀ n, Holds m.2 n → n.value = .ok m.2) :
    List.Forall₂ HasMember nodes members :=
  List.Forall₂.flip
    (forall₂_imp_of_mem h fun m hm k _ hk => ⟨hk.1, hvalue m hm k.2 hk.2⟩)

/-- What a part holds is its value. -/
theorem HasDistinctNames.value_eq {v : Value} (hv : HasDistinctNames v) {n : Node} (h : Holds v n) :
    n.value = .ok v := by
  induction hv generalizing n with
  | null =>
    obtain ⟨start, stop, rfl⟩ := holds_null.mp h
    rfl
  | bool b =>
    cases h with
    | bool => rfl
  | number x =>
    cases h with
    | number => rfl
  | string s =>
    obtain ⟨start, stop, rfl⟩ := holds_string.mp h
    rfl
  | array _ ih =>
    obtain ⟨start, nodes, ending, rfl, hnodes, hending⟩ := holds_array.mp h
    refine value_array_eq_ok.mpr ⟨rfl, hending, _, ?_, rfl⟩
    exact List.Forall₂.flip (forall₂_imp_of_mem hnodes fun v hv n _ hn => ih v hv hn)
  | object hnames _ ih =>
    obtain ⟨start, nodes, ending, rfl, hnodes, hending⟩ := holds_object.mp h
    have hfound := forall₂_hasMember hnodes fun m hm n hn => ih m hm hn
    refine value_object_eq_ok.mpr ⟨rfl, hending, _, hfound, ?_⟩
    rw [Value.insertAll_eq hnames]

theorem IsTextual.hasDistinctNames {v : Value} (hv : IsTextual v) : HasDistinctNames v := by
  induction hv with
  | string s => exact .string s
  | array _ ih => exact .array ih
  | object hnames _ ih => exact .object hnames ih

mutual

/-- A value in memory is held by the part that it is seen as. -/
theorem holds_ofValue : ∀ v : Value, Holds v (Node.ofValue v)
  | .null => .null 0 0
  | .bool b => .bool b 0 0
  | .number n => .number n 0 0
  | .string s => .string s 0 0
  | .array items => .array (shows_ofValues items) rfl
  | .object members => .object (shows_ofMembers members) rfl

theorem shows_ofValues : ∀ items : List Value,
    List.Forall₂ Shows (Value.forms items) (Node.ofValues items)
  | [] => .nil
  | v :: vs => .cons (holds_ofValue v) (shows_ofValues vs)

theorem shows_ofMembers : ∀ members : List (String × Value),
    List.Forall₂ (NamedShows Shows) (Value.memberForms members) (Node.ofMembers members)
  | [] => .nil
  | (_, v) :: rest => .cons (.mk rfl (holds_ofValue v)) (shows_ofMembers rest)

end

end Relata.Json
