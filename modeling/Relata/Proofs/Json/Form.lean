import Relata.Proofs.Json.Literal
import Relata.Proofs.Json.Number
import Relata.Proofs.Json.Value
import Relata.Proofs.Pairing

/-!
# JSON texts wherever they stand

The texts of JSON, described without a reader, and what they hold. A literal may be well formed and
still hold nothing, a number that is out of range or a string with half of a surrogate pair; it has
its place in a text all the same. What is read of a text knows the offsets of the parts, the form
of the text does not: so one text that stands at two places is read as two parts of one form.

## Main definitions

* `Form` — what a text holds; `Form.depth` — how deep its lists and objects nest.
* `FormText`, `FormDocument` — the texts of a form.
* `Shows` — a part shows a form; `ShowsWithin` — it does so unless it nests too deep.

## Main results

* `FormText.readsBack` — **a text is read wherever it stands.**
* `FormDocument.read`, `FormDocument.read_of_value` — **a document is read** if it does not nest too
  deep, or has a value.
-/

namespace Relata.Json

/-! ### Forms -/

/-- What a text holds. Literals and names of members may hold nothing. -/
inductive Form
  | null
  | bool (b : Bool)
  | number (n : Option Number)
  | string (s : Option String)
  | array (items : List Form)
  | object (members : List (Option String × Form))
  deriving Repr, Inhabited

namespace Form

/-- Induction on forms: a list or object comes with the hypothesis for each of its parts. -/
@[elab_as_elim, induction_eliminator]
theorem inductionOn {P : Form → Prop} (null : P .null) (bool : ∀ b, P (.bool b))
    (number : ∀ n, P (.number n)) (string : ∀ s, P (.string s))
    (array : ∀ items, (∀ f ∈ items, P f) → P (.array items))
    (object : ∀ members : List (Option String × Form), (∀ m ∈ members, P m.2) →
      P (.object members)) : ∀ f : Form, P f
  | .null => null
  | .bool b => bool b
  | .number n => number n
  | .string s => string s
  | .array items => array items fun f _ =>
      inductionOn null bool number string array object f
  | .object members => object members fun m hm =>
      have hlt : sizeOf m.2 < 1 + sizeOf members := by
        have hm := List.sizeOf_lt_of_mem hm
        have hpair : sizeOf m = 1 + sizeOf m.1 + sizeOf m.2 := rfl
        omega
      inductionOn null bool number string array object m.2

mutual

/-- How deep lists and objects nest. -/
def depth : Form → Nat
  | array items => depthOf items + 1
  | object members => depthOfMembers members + 1
  | _ => 0

/-- How deep the elements of a list nest. -/
def depthOf : List Form → Nat
  | [] => 0
  | f :: fs => max f.depth (depthOf fs)

/-- How deep the members of an object nest. -/
def depthOfMembers : List (Option String × Form) → Nat
  | [] => 0
  | (_, f) :: rest => max f.depth (depthOfMembers rest)

end

theorem depth_lt_array {items : List Form} {f : Form} (h : f ∈ items) :
    f.depth < (array items).depth := by
  rw [depth, Nat.lt_succ_iff]
  induction items with
  | nil => contradiction
  | cons g items ih =>
    rw [depthOf]
    rcases List.mem_cons.mp h with rfl | h
    · exact Nat.le_max_left _ _
    · exact Nat.le_trans (ih h) (Nat.le_max_right _ _)

theorem depth_lt_object {members : List (Option String × Form)} {m : Option String × Form}
    (h : m ∈ members) : m.2.depth < (object members).depth := by
  rw [depth, Nat.lt_succ_iff]
  induction members with
  | nil => contradiction
  | cons m' members ih =>
    rw [depthOfMembers]
    rcases List.mem_cons.mp h with rfl | h
    · exact Nat.le_max_left _ _
    · exact Nat.le_trans (ih h) (Nat.le_max_right _ _)

end Form

/-! ### Texts -/

/-- What may stand between the tokens of a document. -/
def Between (b : List Char) : Prop := ∀ c ∈ b, isGap c = true

/-- The texts of the elements of a list, at the first of them, with commas behind all but the
last. -/
inductive Elements {α : Type} (W : α → List Char → Prop) : List α → List Char → Prop
  | single {a : α} {t b : List Char} : W a t → Between b → Elements W [a] (t ++ b)
  | cons {a : α} {as : List α} {t b₁ b₂ u : List Char} :
      W a t → Between b₁ → Between b₂ → Elements W as u →
      Elements W (a :: as) (t ++ b₁ ++ ',' :: (b₂ ++ u))

/-- The texts of a member of an object. -/
inductive NamedText (W : Form → List Char → Prop) : Option String × Form → List Char → Prop
  | mk {name b₁ b₂ t : List Char} {parts : List StringPart} {f : Form} :
      StringBody name parts → Between b₁ → Between b₂ → W f t →
      NamedText W (StringPart.string? parts, f)
        ('"' :: (name ++ '"' :: (b₁ ++ ':' :: (b₂ ++ t))))

/-- The texts of a form. -/
inductive FormText : Form → List Char → Prop
  | null : FormText .null ['n', 'u', 'l', 'l']
  | true : FormText (.bool true) ['t', 'r', 'u', 'e']
  | false : FormText (.bool false) ['f', 'a', 'l', 's', 'e']
  | number {t : List Char} {lit : NumberLiteral} : NumberText t lit →
      FormText (.number lit.value.toOption) t
  | string {body : List Char} {parts : List StringPart} : StringBody body parts →
      FormText (.string (StringPart.string? parts)) ('"' :: (body ++ ['"']))
  | emptyArray {b : List Char} : Between b → FormText (.array []) ('[' :: (b ++ [']']))
  | array {items : List Form} {b u : List Char} : Between b → Elements FormText items u →
      FormText (.array items) ('[' :: (b ++ u ++ [']']))
  | emptyObject {b : List Char} : Between b → FormText (.object []) ('\x7b' :: (b ++ ['\x7d']))
  | object {members : List (Option String × Form)} {b u : List Char} :
      Between b → Elements (NamedText FormText) members u →
      FormText (.object members) ('\x7b' :: (b ++ u ++ ['\x7d']))

/-- The documents of a form. -/
inductive FormDocument : Form → List Char → Prop
  | mk {f : Form} {b₁ t b₂ : List Char} :
      Between b₁ → FormText f t → Between b₂ → FormDocument f (b₁ ++ t ++ b₂)

theorem between_nil : Between [] := by simp [Between]

theorem isGap_eq_true {c : Char} :
    isGap c = true ↔ c = ' ' ∨ c = '\n' ∨ c = '\t' ∨ c = '\r' := by
  simp [isGap, or_assoc]

section Starts

variable {α : Type} {W : α → List Char → Prop} {P : Char → Prop}

/-- A list starts as its first element does. -/
theorem Elements.start (hW : ∀ {a t}, W a t → ∃ c s, t = c :: s ∧ P c) {as : List α}
    {u : List Char} (h : Elements W as u) : ∃ c s, u = c :: s ∧ P c := by
  cases h with
  | single ht =>
    obtain ⟨c, s, rfl, hc⟩ := hW ht
    exact ⟨c, _, rfl, hc⟩
  | cons ht =>
    obtain ⟨c, s, rfl, hc⟩ := hW ht
    exact ⟨c, _, rfl, hc⟩

end Starts

/-- The first character of a text is no gap and closes no list. -/
theorem FormText.start {f : Form} {t : List Char} (h : FormText f t) :
    ∃ c s, t = c :: s ∧ isGap c = Bool.false ∧ c ≠ ']' := by
  cases h with
  | null => exact ⟨'n', _, rfl, by decide⟩
  | true => exact ⟨'t', _, rfl, by decide⟩
  | false => exact ⟨'f', _, rfl, by decide⟩
  | number ht =>
    obtain ⟨c, s, rfl, hc⟩ := ht.start
    refine ⟨c, s, rfl, ?_, ?_⟩
    · rw [Bool.eq_false_iff, ne_eq, isGap_eq_true]
      rintro (rfl | rfl | rfl | rfl)
      · contradiction
      · contradiction
      · contradiction
      · contradiction
    · rintro rfl
      contradiction
  | string => exact ⟨'"', _, rfl, by decide⟩
  | emptyArray => exact ⟨'[', _, rfl, by decide⟩
  | array => exact ⟨'[', _, rfl, by decide⟩
  | emptyObject => exact ⟨'\x7b', _, rfl, by decide⟩
  | object => exact ⟨'\x7b', _, rfl, by decide⟩

theorem NamedText.start {W : Form → List Char → Prop} {m : Option String × Form} {t : List Char}
    (h : NamedText W m t) : ∃ c s, t = c :: s ∧ c = '"' := by
  cases h with
  | mk => exact ⟨'"', _, rfl, rfl⟩

/-! ### Parts that show a form -/

/-- A member of an object that shows a named form. -/
inductive NamedShows (S : Form → Node → Prop) : Option String × Form → Key × Node → Prop
  | mk {name : Option String} {f : Form} {key : Key} {n : Node} :
      key.name.toOption = name → S f n → NamedShows S (name, f) (key, n)

/-- A part that shows a form, wherever it stands: it is complete, and no part of it nests too
deep. -/
inductive Shows : Form → Node → Prop
  | null (start stop : Nat) : Shows .null (.null start stop)
  | bool (b : Bool) (start stop : Nat) : Shows (.bool b) (.bool start stop b)
  | number (n : Number) (start stop : Nat) : Shows (.number (some n)) (.number start stop n)
  | noNumber (start : Nat) (use : Failure) : Shows (.number none) (.unusable start use none)
  | string (s : String) (start stop : Nat) : Shows (.string (some s)) (.string start stop s)
  | noString (start : Nat) (use : Failure) : Shows (.string none) (.unusable start use none)
  | array {items : List Form} {nodes : List Node} {start : Nat} {ending : Ending} :
      List.Forall₂ Shows items nodes → ending.broken? = none →
      Shows (.array items) (.array start false nodes ending)
  | object {members : List (Option String × Form)} {nodes : List (Key × Node)} {start : Nat}
      {ending : Ending} :
      List.Forall₂ (NamedShows Shows) members nodes → ending.broken? = none →
      Shows (.object members) (.object start false nodes ending)

/-- A part inside `outer` brackets shows a form, if the form does not nest too deep there or the part
has a value. A part that nests too deep has none. -/
def ShowsWithin (outer : Nat) (f : Form) (n : Node) : Prop :=
  outer + f.depth ≤ nestingLimit ∨ (∃ v, n.value = .ok v) → Shows f n

theorem ShowsWithin.array {outer : Nat} {items : List Form} {nodes : List Node} {start : Nat}
    {ending : Ending} (h : List.Forall₂ (ShowsWithin (outer + 1)) items nodes)
    (hending : ending.broken? = none) :
    ShowsWithin outer (.array items) (.array start (outer ≥ nestingLimit) nodes ending) := by
  rintro (hdepth | ⟨v, hv⟩)
  · have hroom : ¬ outer ≥ nestingLimit := by
      rw [Form.depth] at hdepth
      omega
    rw [decide_eq_false hroom]
    refine .array (forall₂_imp_of_mem h fun f hf n _ hn => hn (Or.inl ?_)) hending
    have hless := Form.depth_lt_array hf
    omega
  · obtain ⟨hdeep, -, vs, hvs, -⟩ := value_array_eq_ok.mp hv
    rw [hdeep]
    refine .array (forall₂_imp_of_mem h fun f _ n hmem hn => hn (Or.inr ?_)) hending
    obtain ⟨w, -, hw⟩ := exists_of_forall₂_left hvs hmem
    exact ⟨w, hw⟩

theorem ShowsWithin.object {outer : Nat} {members : List (Option String × Form)}
    {nodes : List (Key × Node)} {start : Nat} {ending : Ending}
    (h : List.Forall₂ (NamedShows (ShowsWithin (outer + 1))) members nodes)
    (hending : ending.broken? = none) :
    ShowsWithin outer (.object members) (.object start (outer ≥ nestingLimit) nodes ending) := by
  rintro (hdepth | ⟨v, hv⟩)
  · have hroom : ¬ outer ≥ nestingLimit := by
      rw [Form.depth] at hdepth
      omega
    rw [decide_eq_false hroom]
    refine .object (forall₂_imp_of_mem h fun m hm k _ hk => ?_) hending
    have hless := Form.depth_lt_object hm
    cases hk with
    | mk hkey hn => exact .mk hkey (hn (Or.inl (by dsimp only at hless; omega)))
  · obtain ⟨hdeep, -, found, hfound, -⟩ := value_object_eq_ok.mp hv
    rw [hdeep]
    refine .object (forall₂_imp_of_mem h fun m _ k hmem hk => ?_) hending
    obtain ⟨w, -, -, hw⟩ := exists_of_forall₂_left hfound hmem
    cases hk with
    | mk hkey hn => exact .mk hkey (hn (Or.inr ⟨_, hw⟩))

/-! ### Tokens -/

/-- What stands between tokens is skipped. -/
theorem skipGap_append {b s : List Char} (hb : Between b) (hs : ∀ c ∈ s.head?, isGap c = false)
    (off : Nat) : ∃ off', Cursor.skipGap ⟨off, b ++ s⟩ = ⟨off', s⟩ := by
  refine ⟨off + Place.gap (b ++ s), ?_⟩
  have hdrop : (b ++ s).dropWhile isGap = s := by
    rw [List.dropWhile_append_of_pos hb]
    cases s with
    | nil => rfl
    | cons c s => exact List.dropWhile_cons_of_neg (by simp [hs c rfl])
  rw [Cursor.skipGap, hdrop]

theorem endsNumber_nil : EndsNumber [] := by
  intro c hc
  contradiction

/-- What closes or separates the parts of a list or object ends a number. -/
theorem endsNumber_cons {c : Char} (hc : c ∈ [',', ']', '\x7d']) (s : List Char) :
    EndsNumber (c :: s) := by
  have hall : ∀ c ∈ [',', ']', '\x7d'],
      c.isDigit = false ∧ c ≠ '.' ∧ c ≠ 'e' ∧ c ≠ 'E' := by decide
  intro d hd
  obtain rfl := Option.some.inj hd
  exact hall c hc

/-- So does a gap. -/
theorem EndsNumber.between {s : List Char} (hs : EndsNumber s) {b : List Char} (hb : Between b) :
    EndsNumber (b ++ s) := by
  cases b with
  | nil => exact hs
  | cons c b =>
    intro d hd
    obtain rfl := Option.some.inj hd
    rcases isGap_eq_true.mp (hb c List.mem_cons_self) with rfl | rfl | rfl | rfl
    · decide
    · decide
    · decide
    · decide

/-- A string literal is read up to its closing quote. -/
theorem StringBody.read {body : List Char} {parts : List StringPart} (h : StringBody body parts)
    (off : Nat) (rest : List Char) :
    ∃ found off', scanString off (body ++ '"' :: rest) = ⟨found, .ok ⟨off', rest⟩⟩ ∧
      (StringLiteral.value ⟨found, .ok ⟨off', rest⟩⟩).toOption = StringPart.string? parts := by
  obtain ⟨found, off', hscan, hfound, hend⟩ := h.scanString_append off rest
  refine ⟨found, off', hscan, ?_⟩
  rw [StringPart.string?, ← hfound, StringPart.text?_unplaced hend, StringPart.text?,
    StringLiteral.value]
  cases StringPart.values found with
  | error f => rfl
  | ok s => rfl

/-! ### Lists and objects -/

/-- `element` reads the text `t` of a form up to its end, if that ends a number, as a part that `S`
relates to the form. -/
def ReadsBack (S : Form → Node → Prop) (element : Cursor → Read) (f : Form) (t : List Char) :
    Prop :=
  ∀ off rest, EndsNumber rest →
    ∃ n off', element ⟨off, t ++ rest⟩ = ⟨n, some ⟨off', rest⟩⟩ ∧ S f n

section Parts

variable {S : Form → Node → Prop} {element : Cursor → Read}

/-- The elements of a list are read up to its closing bracket if each of them is read. -/
theorem readItems_append {items : List Form} {u : List Char} (hu : Elements FormText items u)
    (h : ∀ f ∈ items, ∀ t, FormText f t → t.length ≤ u.length → ReadsBack S element f t)
    (off : Nat) (rest : List Char) :
    ∃ nodes ending off', readItems element ⟨off, u ++ ']' :: rest⟩ =
        ⟨nodes, ending, some ⟨off', rest⟩⟩ ∧
      List.Forall₂ S items nodes ∧ ending.broken? = none := by
  induction hu generalizing off with
  | @single f t b ht hb =>
    have hends : EndsNumber (b ++ ']' :: rest) := (endsNumber_cons (by decide) rest).between hb
    obtain ⟨n, off₁, hread, hn⟩ :=
      h f List.mem_cons_self t ht (by rw [List.length_append]; omega) off _ hends
    obtain ⟨off₂, hskip⟩ := skipGap_append hb (s := ']' :: rest) (by simp [isGap]) off₁
    refine ⟨[n], .closed (off₂ + 1), off₂ + 1, ?_, .cons hn .nil, rfl⟩
    rw [List.append_assoc, readItems, hread]
    simp only [hskip]
    rfl
  | @cons f items t b₁ b₂ u ht hb₁ hb₂ hu ih =>
    have hends : EndsNumber (b₁ ++ ',' :: (b₂ ++ (u ++ ']' :: rest))) :=
      (endsNumber_cons (by decide) _).between hb₁
    obtain ⟨n, off₁, hread, hn⟩ := h f List.mem_cons_self t ht
      (by simp only [List.length_append]; omega) off _ hends
    obtain ⟨off₂, hskip₁⟩ := skipGap_append hb₁ (s := ',' :: (b₂ ++ (u ++ ']' :: rest)))
      (by simp [isGap]) off₁
    -- the next element does not start with a bracket
    obtain ⟨c, s, rfl, hgap, hclose⟩ := hu.start FormText.start
    obtain ⟨off₃, hskip₂⟩ := skipGap_append hb₂ (s := c :: s ++ ']' :: rest)
      (by simpa using hgap) (off₂ + 1)
    obtain ⟨nodes, ending, off', htail, hnodes, hending⟩ := ih (fun g hg t' ht' hle =>
      h g (List.mem_cons_of_mem f hg) t' ht' (by
        simp only [List.length_append, List.length_cons] at hle ⊢
        omega)) off₃
    refine ⟨n :: nodes, ending, off', ?_, .cons hn hnodes, hending⟩
    simp only [List.append_assoc, List.cons_append] at hread hskip₁ hskip₂ htail ⊢
    rw [readItems, hread]
    simp only [hskip₁, hskip₂]
    rw [if_pos, htail]
    · rfl
    · simp only [List.length_append, List.length_cons]
      omega

/-- The name of a member is read, and the value behind it if that is read. -/
theorem readMember_append {m : Option String × Form} {t : List Char} (ht : NamedText FormText m t)
    (h : ∀ t', FormText m.2 t' → t'.length ≤ t.length → ReadsBack S element m.2 t')
    (off : Nat) {rest : List Char} (hrest : EndsNumber rest) :
    ∃ found off₁ behind n off₂,
      scanString (off + 1) ((t ++ rest).drop 1) = ⟨found, .ok ⟨off₁, behind⟩⟩ ∧
      readMemberValue element ⟨off₁, behind⟩ = ⟨n, some ⟨off₂, rest⟩⟩ ∧
      NamedShows S m (⟨StringLiteral.value ⟨found, .ok ⟨off₁, behind⟩⟩, off₁⟩, n) := by
  cases ht with
  | @mk name b₁ b₂ t parts f hname hb₁ hb₂ ht =>
    obtain ⟨found, off₁, hscan, hvalue⟩ :=
      hname.read (off + 1) (b₁ ++ ':' :: (b₂ ++ (t ++ rest)))
    obtain ⟨off₂, hskip₁⟩ := skipGap_append hb₁ (s := ':' :: (b₂ ++ (t ++ rest)))
      (by simp [isGap]) off₁
    have hstart : ∀ c ∈ (t ++ rest).head?, isGap c = false := by
      obtain ⟨c, s, rfl, hgap, -⟩ := ht.start
      simpa using hgap
    obtain ⟨off₃, hskip₂⟩ := skipGap_append hb₂ hstart (off₂ + 1)
    obtain ⟨n, off₄, hread, hn⟩ := h t ht
      (by simp only [List.length_append, List.length_cons]; omega) off₃ rest hrest
    refine ⟨found, off₁, _, n, off₄, ?_, ?_, .mk hvalue hn⟩
    · rw [← hscan]
      simp only [List.cons_append, List.append_assoc, List.drop_succ_cons, List.drop_zero]
    · rw [readMemberValue, hskip₁]
      simp only [hskip₂]
      exact hread

/-- The members of an object are read up to its closing bracket if each of their values is read. -/
theorem readMembers_append {members : List (Option String × Form)} {u : List Char}
    (hu : Elements (NamedText FormText) members u)
    (h : ∀ m ∈ members, ∀ t, FormText m.2 t → t.length ≤ u.length → ReadsBack S element m.2 t)
    (off : Nat) (rest : List Char) :
    ∃ nodes ending off', readMembers element ⟨off, u ++ '\x7d' :: rest⟩ =
        ⟨nodes, ending, some ⟨off', rest⟩⟩ ∧
      List.Forall₂ (NamedShows S) members nodes ∧ ending.broken? = none := by
  induction hu generalizing off with
  | @single m t b ht hb =>
    have hends : EndsNumber (b ++ '\x7d' :: rest) := (endsNumber_cons (by decide) rest).between hb
    obtain ⟨found, off₁, behind, n, off₂, hscan, hread, hn⟩ :=
      readMember_append ht (fun t' ht' hle => h m List.mem_cons_self t' ht'
        (by rw [List.length_append]; omega)) off hends
    obtain ⟨off₃, hskip⟩ := skipGap_append hb (s := '\x7d' :: rest) (by simp [isGap]) off₂
    refine ⟨[(_, n)], .closed (off₃ + 1), off₃ + 1, ?_, .cons hn .nil, rfl⟩
    rw [List.append_assoc, readMembers, hscan]
    simp only [hread, hskip]
    rfl
  | @cons m members t b₁ b₂ u ht hb₁ hb₂ hu ih =>
    have hends : EndsNumber (b₁ ++ ',' :: (b₂ ++ (u ++ '\x7d' :: rest))) :=
      (endsNumber_cons (by decide) _).between hb₁
    obtain ⟨found, off₁, behind, n, off₂, hscan, hread, hn⟩ :=
      readMember_append ht (fun t' ht' hle => h m List.mem_cons_self t' ht'
        (by simp only [List.length_append]; omega)) off hends
    obtain ⟨off₃, hskip₁⟩ := skipGap_append hb₁ (s := ',' :: (b₂ ++ (u ++ '\x7d' :: rest)))
      (by simp [isGap]) off₂
    -- the next member starts with the quote of its name
    obtain ⟨c, s, rfl, rfl⟩ := hu.start NamedText.start
    obtain ⟨off₄, hskip₂⟩ := skipGap_append hb₂ (s := '"' :: s ++ '\x7d' :: rest)
      (by simp [isGap]) (off₃ + 1)
    obtain ⟨nodes, ending, off', htail, hnodes, hending⟩ := ih (fun m' hm' t' ht' hle =>
      h m' (List.mem_cons_of_mem m hm') t' ht' (by
        simp only [List.length_append, List.length_cons] at hle ⊢
        omega)) off₄
    refine ⟨(_, n) :: nodes, ending, off', ?_, .cons hn hnodes, hending⟩
    simp only [List.append_assoc, List.cons_append] at hscan hread hskip₁ hskip₂ htail ⊢
    rw [readMembers, hscan]
    simp only [hread, hskip₁, hskip₂]
    rw [if_pos, htail]
    · rfl
    · simp only [List.length_append, List.length_cons]
      omega

end Parts

/-- A list is read if each of its elements is read. -/
theorem readNode_array {items : List Form} {t : List Char} (ht : FormText (.array items) t)
    {fuel outer : Nat}
    (h : ∀ f ∈ items, ∀ t', FormText f t' → t'.length < t.length →
      ReadsBack (ShowsWithin (outer + 1)) (readNode fuel (outer + 1)) f t') :
    ReadsBack (ShowsWithin outer) (readNode (fuel + 1) outer) (.array items) t := by
  intro off rest _
  cases ht with
  | @emptyArray b hb =>
    obtain ⟨off', hskip⟩ := skipGap_append hb (s := ']' :: rest) (by simp [isGap]) (off + 1)
    refine ⟨.array off (outer ≥ nestingLimit) [] (.closed (off' + 1)), off' + 1, ?_,
      .array .nil rfl⟩
    simp only [List.cons_append, List.append_assoc, List.nil_append]
    rw [readNode]
    simp only [hskip]
  | @array _ b u hb hu =>
    have hitems : ∀ f ∈ items, ∀ t', FormText f t' → t'.length ≤ u.length →
        ReadsBack (ShowsWithin (outer + 1)) (readNode fuel (outer + 1)) f t' := by
      intro f hf t' ht' hle
      apply h f hf t' ht'
      simp only [List.length_cons, List.length_append]
      omega
    -- the first element does not start with a bracket
    obtain ⟨c, s, rfl, hgap, hclose⟩ := hu.start FormText.start
    obtain ⟨off₁, hskip⟩ := skipGap_append hb (s := c :: s ++ ']' :: rest)
      (by simpa using hgap) (off + 1)
    obtain ⟨nodes, ending, off', hread, hnodes, hending⟩ := readItems_append hu hitems off₁ rest
    refine ⟨.array off (outer ≥ nestingLimit) nodes ending, off', ?_, .array hnodes hending⟩
    simp only [List.cons_append, List.append_assoc, List.nil_append] at hskip hread ⊢
    rw [readNode]
    simp only [hskip]
    rw [hread]

/-- An object is read if each of its members is read. -/
theorem readNode_object {members : List (Option String × Form)} {t : List Char}
    (ht : FormText (.object members) t) {fuel outer : Nat}
    (h : ∀ m ∈ members, ∀ t', FormText m.2 t' → t'.length < t.length →
      ReadsBack (ShowsWithin (outer + 1)) (readNode fuel (outer + 1)) m.2 t') :
    ReadsBack (ShowsWithin outer) (readNode (fuel + 1) outer) (.object members) t := by
  intro off rest _
  cases ht with
  | @emptyObject b hb =>
    obtain ⟨off', hskip⟩ := skipGap_append hb (s := '\x7d' :: rest) (by simp [isGap]) (off + 1)
    refine ⟨.object off (outer ≥ nestingLimit) [] (.closed (off' + 1)), off' + 1, ?_,
      .object .nil rfl⟩
    simp only [List.cons_append, List.append_assoc, List.nil_append]
    rw [readNode]
    simp only [hskip]
  | @object _ b u hb hu =>
    have hmembers : ∀ m ∈ members, ∀ t', FormText m.2 t' → t'.length ≤ u.length →
        ReadsBack (ShowsWithin (outer + 1)) (readNode fuel (outer + 1)) m.2 t' := by
      intro m hm t' ht' hle
      apply h m hm t' ht'
      simp only [List.length_cons, List.length_append]
      omega
    -- the first member starts with the quote of its name
    obtain ⟨c, s, rfl, rfl⟩ := hu.start NamedText.start
    obtain ⟨off₁, hskip⟩ := skipGap_append hb (s := '"' :: s ++ '\x7d' :: rest)
      (by simp [isGap]) (off + 1)
    obtain ⟨nodes, ending, off', hread, hnodes, hending⟩ :=
      readMembers_append hu hmembers off₁ rest
    refine ⟨.object off (outer ≥ nestingLimit) nodes ending, off', ?_, .object hnodes hending⟩
    simp only [List.cons_append, List.append_assoc, List.nil_append] at hskip hread ⊢
    rw [readNode]
    simp only [hskip]
    rw [hread]

/-! ### Literals -/

theorem readNode_number {n : Option Number} {t : List Char} (ht : FormText (.number n) t)
    (fuel outer : Nat) : ReadsBack Shows (readNode (fuel + 1) outer) (.number n) t := by
  intro off rest hrest
  cases ht with
  | @number _ lit ht =>
    obtain ⟨found, stop, hscan, hvalue⟩ := ht.scanNumber_append hrest off
    obtain ⟨c, s, rfl, hc⟩ := ht.start
    have hothers : ∀ d ∈ ['n', 't', 'f', '"', '[', '\x7b'], (d = '-' || d.isDigit) = false := by
      decide
    -- the character tells a number from every other token
    have hne : ∀ d ∈ ['n', 't', 'f', '"', '[', '\x7b'], c ≠ d := by
      rintro d hd rfl
      rw [hothers c hd] at hc
      contradiction
    simp only [List.mem_cons, List.not_mem_nil, or_false, forall_eq_or_imp, forall_eq] at hne
    have hread : readNode (fuel + 1) outer ⟨off, c :: s ++ rest⟩ =
        .number ⟨off, c :: s ++ rest⟩ := by
      simp only [Bool.or_eq_true, decide_eq_true_eq] at hc
      simp [readNode, hne, hc]
    rw [hread, Read.number, hscan, ← hvalue]
    dsimp only
    cases found.value with
    | error f => exact ⟨.unusable off f none, stop, rfl, .noNumber off f⟩
    | ok n => exact ⟨.number off stop n, stop, rfl, .number n off stop⟩

theorem readNode_string {s : Option String} {t : List Char} (ht : FormText (.string s) t)
    (fuel outer : Nat) : ReadsBack Shows (readNode (fuel + 1) outer) (.string s) t := by
  intro off rest _
  cases ht with
  | @string body parts hbody =>
    obtain ⟨found, stop, hscan, hvalue⟩ := hbody.read (off + 1) rest
    have hread : readNode (fuel + 1) outer ⟨off, '"' :: (body ++ ['"']) ++ rest⟩ =
        .string off (body ++ '"' :: rest) := by
      simp only [List.cons_append, List.append_assoc, List.nil_append]
      rfl
    rw [hread, Read.string, hscan, ← hvalue]
    cases StringLiteral.value ⟨found, .ok ⟨stop, rest⟩⟩ with
    | error f => exact ⟨.unusable off f none, stop, rfl, .noString off f⟩
    | ok s => exact ⟨.string off stop s, stop, rfl, .string s off stop⟩

/-! ### Documents -/

theorem ReadsBack.within {element : Cursor → Read} {f : Form} {t : List Char}
    (h : ReadsBack Shows element f t) (outer : Nat) :
    ReadsBack (ShowsWithin outer) element f t := by
  intro off rest hrest
  obtain ⟨n, off', hread, hn⟩ := h off rest hrest
  exact ⟨n, off', hread, fun _ => hn⟩

/-- **A text is read wherever it stands**, whatever follows. -/
theorem FormText.readsBack {f : Form} {t : List Char} (ht : FormText f t) {fuel outer : Nat}
    (hfuel : t.length < fuel) : ReadsBack (ShowsWithin outer) (readNode fuel outer) f t := by
  obtain ⟨fuel, rfl⟩ : ∃ k, fuel = k + 1 := ⟨fuel - 1, by omega⟩
  induction f generalizing t fuel outer with
  | null =>
    cases ht with
    | null => exact fun off rest _ => ⟨_, _, rfl, fun _ => .null _ _⟩
  | bool b =>
    cases ht with
    | true => exact fun off rest _ => ⟨_, _, rfl, fun _ => .bool _ _ _⟩
    | false => exact fun off rest _ => ⟨_, _, rfl, fun _ => .bool _ _ _⟩
  | number n => exact (readNode_number ht fuel outer).within outer
  | string s => exact (readNode_string ht fuel outer).within outer
  | array items ih =>
    apply readNode_array ht
    intro f hf t' ht' hlt
    obtain ⟨fuel, rfl⟩ : ∃ k, fuel = k + 1 := ⟨fuel - 1, by omega⟩
    exact ih f hf ht' fuel (by omega)
  | object members ih =>
    apply readNode_object ht
    intro m hm t' ht' hlt
    obtain ⟨fuel, rfl⟩ : ∃ k, fuel = k + 1 := ⟨fuel - 1, by omega⟩
    exact ih m hm ht' fuel (by omega)

/-- A document is read, and nothing stands behind it. -/
theorem FormDocument.read_within {f : Form} {s : List Char} (h : FormDocument f s) :
    ∃ n, Document.read s = ⟨s, n, none⟩ ∧ ShowsWithin 0 f n := by
  cases h with
  | @mk b₁ t b₂ hb₁ ht hb₂ =>
    have hstart : ∀ c ∈ (t ++ b₂).head?, isGap c = false := by
      obtain ⟨c, s, rfl, hgap, -⟩ := ht.start
      simpa using hgap
    obtain ⟨off₁, hskip⟩ := skipGap_append hb₁ hstart 0
    have hfuel : t.length < (b₁ ++ t ++ b₂).length + 1 := by
      simp only [List.length_append]
      omega
    have hends : EndsNumber (b₂ ++ []) := endsNumber_nil.between hb₂
    rw [List.append_nil] at hends
    have hback : ReadsBack (ShowsWithin 0) _ f t := ht.readsBack hfuel
    obtain ⟨n, off₂, hread, hn⟩ := hback off₁ b₂ hends
    obtain ⟨off₃, hend⟩ := skipGap_append hb₂ (s := []) (by simp) off₂
    refine ⟨n, ?_, hn⟩
    rw [List.append_nil] at hend
    rw [Document.read, List.append_assoc, hskip, ← List.append_assoc, hread]
    simp only [Option.bind_some, hend]

/-- **A document is read** if it nests no deeper than is allowed. -/
theorem FormDocument.read {f : Form} {s : List Char} (h : FormDocument f s)
    (hdepth : f.depth ≤ nestingLimit) :
    ∃ n, Document.read s = ⟨s, n, none⟩ ∧ Shows f n := by
  obtain ⟨n, hread, hn⟩ := h.read_within
  exact ⟨n, hread, hn (Or.inl (by rwa [Nat.zero_add]))⟩

/-- A document that has a value is read, however deep it nests. -/
theorem FormDocument.read_of_value {f : Form} {s : List Char} (h : FormDocument f s) {v : Value}
    (hv : (Document.read s).value = .ok v) :
    ∃ n, Document.read s = ⟨s, n, none⟩ ∧ Shows f n ∧ n.value = .ok v := by
  obtain ⟨n, hread, hn⟩ := h.read_within
  have hvalue : n.value = .ok v := by
    obtain ⟨w, hw, hv⟩ := bind_eq_ok.mp hv
    rw [hread] at hw hv
    obtain rfl := Except.ok.inj hv
    exact hw
  exact ⟨n, hread, hn (Or.inr ⟨v, hvalue⟩), hvalue⟩

end Relata.Json
