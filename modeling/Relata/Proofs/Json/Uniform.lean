import Relata.Proofs.Json.Shape

/-!
# Readers that go by the form

Two parts of one form differ in where they stand. Where a reader finds what it wants in one of them,
it finds the same in the other: places only word complaints. This holds of every reader that is
put together from the basic ones.

## Main definitions

* `IsUniform` — a reader finds the same in all parts of one form.

## Main results

* `Shows.skip_eq_none` — what shows a form can be passed over.
* `isUniform_tree` — the value of a part goes by its form.
* `IsUniform.list`, `IsUniform.entries` — so do lists and objects of what does.
* `Shape.isUniform_read` — **a record goes by the form** if its members do.
-/

namespace Relata.Json

/-- `reader` finds the same in all parts that show the form. -/
def AgreesOn {α : Type} (reader : Reader α) (f : Form) : Prop :=
  ∀ n n', Shows f n → Shows f n' → (reader n).toOption = (reader n').toOption

/-- `reader` finds the same in all parts of one form. -/
def IsUniform {α : Type} (reader : Reader α) : Prop := ∀ f, AgreesOn reader f

/-! ### Parts that are passed over -/

theorem skipAll_eq_none {items : List Form} {nodes : List Node}
    (h : List.Forall₂ Shows items nodes)
    (hskip : ∀ f ∈ items, ∀ n, Shows f n → n.skip = none) : Node.skipAll nodes = none := by
  induction h with
  | nil => rfl
  | cons hn _ ih =>
    rw [Node.skipAll, hskip _ List.mem_cons_self _ hn, Option.none_or]
    exact ih fun f hf => hskip f (List.mem_cons_of_mem _ hf)

theorem skipMembers_eq_none {members : List (Option String × Form)} {nodes : List (Key × Node)}
    (h : List.Forall₂ (NamedShows Shows) members nodes)
    (hskip : ∀ m ∈ members, ∀ n, Shows m.2 n → n.skip = none) :
    Node.skipMembers nodes = none := by
  induction h with
  | nil => rfl
  | cons hm _ ih =>
    cases hm with
    | mk hkey hn =>
      rw [Node.skipMembers, hskip _ List.mem_cons_self _ hn, Option.none_or]
      exact ih fun m hm => hskip m (List.mem_cons_of_mem _ hm)

/-- What shows a form can be passed over, also where it holds nothing. -/
theorem Shows.skip_eq_none {f : Form} {n : Node} (h : Shows f n) : n.skip = none := by
  induction f generalizing n with
  | array items ih =>
    cases h with
    | array hnodes hending =>
      rw [Node.skip, skipAll_eq_none hnodes fun f hf n hn => ih f hf hn, hending]
      rfl
  | object members ih =>
    cases h with
    | object hnodes hending =>
      rw [Node.skip, skipMembers_eq_none hnodes fun m hm n hn => ih m hm hn, hending]
      rfl
  | _ =>
    cases h
    all_goals rfl

/-! ### Values -/

section Readers

variable {α : Type} {reader : Reader α}

theorem isUniform_text : IsUniform Reader.text := by
  intro f n n' h h'
  cases h with
  | _ => cases h'; rfl

/-- Inside a list or object a reader finds the same. -/
theorem AgreesOn.inside {f : Form} (h : AgreesOn reader f) (closer : Char) :
    AgreesOn (Reader.inside closer reader) f := by
  intro n n' hn hn'
  rw [Reader.inside, Reader.inside, toOption_mapError, toOption_mapError, h n n' hn hn']

theorem IsUniform.optional (h : IsUniform reader) : IsUniform (Reader.optional reader) := by
  intro f n n' hn hn'
  have hread : ∀ m m', Shows f m → Shows f m' →
      (some <$> reader m).toOption = (some <$> reader m').toOption := by
    intro m m' hm hm'
    rw [toOption_map, toOption_map, h f m m' hm hm']
  cases hn with
  | null => cases hn'; rfl
  | bool => cases hn'; exact hread _ _ (.bool _ _ _) (.bool _ _ _)
  | number => cases hn'; exact hread _ _ (.number _ _ _) (.number _ _ _)
  | noNumber => cases hn'; exact hread _ _ (.noNumber _ _) (.noNumber _ _)
  | string => cases hn'; exact hread _ _ (.string _ _ _) (.string _ _ _)
  | noString => cases hn'; exact hread _ _ (.noString _ _) (.noString _ _)
  | array hnodes hending =>
    cases hn' with
    | array hnodes' hending' =>
      exact hread _ _ (.array hnodes hending) (.array hnodes' hending')
  | object hnodes hending =>
    cases hn' with
    | object hnodes' hending' =>
      exact hread _ _ (.object hnodes hending) (.object hnodes' hending')

theorem values_agree {items : List Form} {nodes nodes' : List Node}
    (h : List.Forall₂ Shows items nodes) (h' : List.Forall₂ Shows items nodes')
    (hread : ∀ f ∈ items, AgreesOn Node.value f) :
    (Node.values nodes).toOption = (Node.values nodes').toOption := by
  induction h generalizing nodes' with
  | nil =>
    cases h'
    rfl
  | cons hn _ ih =>
    cases h' with
    | cons hn' hrest' =>
      have hhead := hread _ List.mem_cons_self _ _ hn hn'
      have htail := ih hrest' fun f hf => hread f (List.mem_cons_of_mem _ hf)
      simp only [Node.values, toOption_bind, hhead, htail]

/-- Names and values are found alike, and so are the members that are put together from them. -/
theorem memberValues_agree {members : List (Option String × Form)} {nodes nodes' : List (Key × Node)}
    (before : List (String × Value)) (h : List.Forall₂ (NamedShows Shows) members nodes)
    (h' : List.Forall₂ (NamedShows Shows) members nodes')
    (hread : ∀ m ∈ members, AgreesOn Node.value m.2) :
    (Node.memberValues before nodes).toOption = (Node.memberValues before nodes').toOption := by
  induction h generalizing before nodes' with
  | nil =>
    cases h'
    rfl
  | cons hm _ ih =>
    cases hm with
    | mk hkey hn =>
      cases h' with
      | cons hm' hrest' =>
        cases hm' with
        | mk hkey' hn' =>
          have hvalue := hread _ List.mem_cons_self _ _ hn hn'
          have htail := fun before => ih before hrest' fun m hm =>
            hread m (List.mem_cons_of_mem _ hm)
          simp only [Node.memberValues, toOption_bind, hkey, hkey', hvalue, htail]

/-- **The value of a part goes by its form.** -/
theorem isUniform_tree : IsUniform Reader.tree := by
  intro f
  induction f with
  | array items ih =>
    intro n n' hn hn'
    cases hn with
    | array hnodes hending =>
      cases hn' with
      | array hnodes' hending' =>
        have hvalues := values_agree hnodes hnodes' ih
        simp only [Reader.tree, Node.value, Bool.false_eq_true, if_false, toOption_bind, hvalues,
          Ending.guard_eq hending, Ending.guard_eq hending']
  | object members ih =>
    intro n n' hn hn'
    cases hn with
    | object hnodes hending =>
      cases hn' with
      | object hnodes' hending' =>
        have hvalues := memberValues_agree [] hnodes hnodes' ih
        simp only [Reader.tree, Node.value, Bool.false_eq_true, if_false, toOption_bind, hvalues,
          Ending.guard_eq hending, Ending.guard_eq hending']
  | _ =>
    intro n n' hn hn'
    cases hn
    all_goals
      cases hn'
      rfl

theorem elements_agree (hreader : IsUniform reader) {items : List Form} {nodes nodes' : List Node}
    (h : List.Forall₂ Shows items nodes) (h' : List.Forall₂ Shows items nodes') :
    (Reader.elements reader nodes).toOption = (Reader.elements reader nodes').toOption := by
  induction h generalizing nodes' with
  | nil =>
    cases h'
    rfl
  | cons hn _ ih =>
    cases h' with
    | cons hn' hrest' =>
      have hhead := (hreader _).inside ']' _ _ hn hn'
      simp only [Reader.elements, toOption_bind, hhead, ih hrest']

theorem IsUniform.list (h : IsUniform reader) : IsUniform (Reader.list reader) := by
  intro f n n' hn hn'
  cases hn with
  | array hnodes hending =>
    cases hn' with
    | array hnodes' hending' =>
      simp only [Reader.list, Bool.false_eq_true, if_false, toOption_bind,
        elements_agree h hnodes hnodes', Ending.guard_eq hending, Ending.guard_eq hending']
  | _ => cases hn'; rfl

theorem entriesFrom_agree (hreader : IsUniform reader) {members : List (Option String × Form)}
    {nodes nodes' : List (Key × Node)} (before : List (String × α))
    (h : List.Forall₂ (NamedShows Shows) members nodes)
    (h' : List.Forall₂ (NamedShows Shows) members nodes') :
    (Reader.entriesFrom reader before nodes).toOption =
      (Reader.entriesFrom reader before nodes').toOption := by
  induction h generalizing before nodes' with
  | nil =>
    cases h'
    rfl
  | cons hm _ ih =>
    cases hm with
    | mk hkey hn =>
      cases h' with
      | cons hm' hrest' =>
        cases hm' with
        | mk hkey' hn' =>
          have hvalue := (hreader _).inside '\x7d' _ _ hn hn'
          simp only [Reader.entriesFrom, toOption_bind, hkey, hkey', hvalue]
          refine congrArg (Option.bind _) (funext fun name => congrArg (Option.bind _) ?_)
          funext a
          -- a name that was there already stops both
          split
          · rfl
          · exact ih _ hrest'

theorem IsUniform.entries (h : IsUniform reader) : IsUniform (Reader.entries reader) := by
  intro f n n' hn hn'
  cases hn with
  | object hnodes hending =>
    cases hn' with
    | object hnodes' hending' =>
      simp only [Reader.entries, Bool.false_eq_true, if_false, toOption_bind,
        entriesFrom_agree h [] hnodes hnodes', Ending.guard_eq hending, Ending.guard_eq hending']
  | _ => cases hn'; rfl

end Readers

theorem isUniform_members : IsUniform Reader.members := by
  intro f n n' hn hn'
  cases hn with
  | object hnodes hending =>
    cases hn' with
    | object hnodes' hending' =>
      have hvalues := memberValues_agree [] hnodes hnodes' fun m _ => isUniform_tree m.2
      simp only [Reader.members, Bool.false_eq_true, if_false, toOption_bind, hvalues,
        Ending.guard_eq hending, Ending.guard_eq hending']
  | _ => cases hn'; rfl

/-! ### Records -/

section Records

variable {σ α : Type}

/-- A member that is stored goes by the form if its reader does. -/
theorem IsUniform.put {reader : Reader α} (h : IsUniform reader) (name : String)
    (presence : Presence) (set : σ → α → σ) (s : σ) :
    IsUniform ((field name presence reader set).put s) := by
  intro f n n' hn hn'
  show (set s <$> reader n).toOption = (set s <$> reader n').toOption
  rw [toOption_map, toOption_map, h f n n' hn hn']

namespace Shape

/-- The members of an object are read alike: unknown ones are passed over, and a name that comes
again stops both readers. -/
theorem readMembers_agree {fields : List (Field σ)}
    (hfields : ∀ f ∈ fields, ∀ s, IsUniform (f.put s)) (seen : List String) (s : σ)
    {members : List (Option String × Form)} {nodes nodes' : List (Key × Node)}
    (h : List.Forall₂ (NamedShows Shows) members nodes)
    (h' : List.Forall₂ (NamedShows Shows) members nodes') :
    (readMembers fields seen s nodes).toOption = (readMembers fields seen s nodes').toOption := by
  induction h generalizing seen s nodes' with
  | nil =>
    cases h'
    rfl
  | cons hm _ ih =>
    cases hm with
    | mk hkey hn =>
      cases h' with
      | cons hm' hrest' =>
        cases hm' with
        | mk hkey' hn' =>
          simp only [readMembers, toOption_bind, hkey, hkey', hn.skip_eq_none, hn'.skip_eq_none]
          -- both objects show the same names, so both readers look for the same member
          refine congrArg (Option.bind _) (funext fun name => ?_)
          cases hfind : fields.find? (·.name == name) with
          | none => exact ih seen s hrest'
          | some f =>
            have hf : f ∈ fields := List.mem_of_find?_eq_some hfind
            have hput := (hfields f hf s _).inside '\x7d' _ _ hn hn'
            by_cases hseen : seen.contains name = true
            · simp only [hseen, if_true]
              rfl
            · simp only [hseen, Bool.false_eq_true, if_false, toOption_bind, hput]
              exact congrArg (Option.bind _) (funext fun t => ih (name :: seen) t hrest')

/-- Elements that are left over make a complaint. -/
theorem over_ne_none {ending : Ending} (h : ending.broken? = none) (read : Nat) (n : Node)
    (rest : List Node) : ∃ f, Reader.Ending.over read (n :: rest) ending = some f := by
  cases ending with
  | broken b => contradiction
  | closed stop => exact ⟨_, rfl⟩
  | held => exact ⟨_, rfl⟩

/-- The elements of a list are read alike. Both lists end early, or neither does. -/
theorem readElements_agree (shape : Shape σ) {fields : List (Field σ)}
    (hfields : ∀ f ∈ fields, ∀ s, IsUniform (f.put s)) (read : Nat) (s : σ) {items : List Form}
    {nodes nodes' : List Node} {ending ending' : Ending}
    (h : List.Forall₂ Shows items nodes) (h' : List.Forall₂ Shows items nodes')
    (hending : ending.broken? = none) (hending' : ending'.broken? = none) :
    (shape.readElements read fields s nodes ending).toOption =
      (shape.readElements read fields s nodes' ending').toOption := by
  -- both lists show the same items, so one ends where the other does
  induction fields generalizing read s items nodes nodes' with
  | nil =>
    cases h with
    | nil =>
      cases h'
      rw [readElements, readElements, over_eq_none hending, over_eq_none hending']
    | cons hn hrest =>
      cases h' with
      | cons hn' hrest' =>
        obtain ⟨f, hf⟩ := over_ne_none hending read _ _
        obtain ⟨f', hf'⟩ := over_ne_none hending' read _ _
        rw [readElements, readElements, hf, hf']
        rfl
  | cons f fields ih =>
    have hrest := fun g hg => hfields g (List.mem_cons_of_mem f hg)
    cases h with
    | nil =>
      cases h'
      rw [readElements, readElements, hending, hending']
      by_cases hpresence : f.presence = .defaulted
      · simp only [hpresence, if_true]
        exact ih hrest (read + 1) s .nil .nil
      · simp only [hpresence, if_false]
    | cons hn hnodes =>
      cases h' with
      | cons hn' hnodes' =>
        have hput := (hfields f List.mem_cons_self s _).inside ']' _ _ hn hn'
        simp only [readElements, toOption_bind, hput]
        exact congrArg (Option.bind _) (funext fun t => ih hrest (read + 1) t hnodes hnodes')

/-- **A record goes by the form** if each of its members does, as an object and as a list. -/
theorem isUniform_read {shape : Shape σ}
    (hfields : ∀ f ∈ shape.fields, ∀ s, IsUniform (f.put s)) : IsUniform shape.read := by
  intro f n n' hn hn'
  cases hn with
  | object hnodes hending =>
    cases hn' with
    | object hnodes' hending' =>
      have hmembers := readMembers_agree hfields [] shape.blank hnodes hnodes'
      simp only [read, Bool.false_eq_true, if_false, toOption_bind, hmembers,
        Ending.guard_eq hending, Ending.guard_eq hending']
      refine congrArg (Option.bind _) (funext fun found => ?_)
      cases missing? shape.fields found.1 with
      | none => rfl
      | some f => rfl
  | array hnodes hending =>
    cases hn' with
    | array hnodes' hending' =>
      simp only [read, Bool.false_eq_true, if_false, toOption_mapError]
      exact readElements_agree shape hfields 0 shape.blank hnodes hnodes' hending hending'
  | _ => cases hn'; rfl

end Shape

end Records

end Relata.Json
