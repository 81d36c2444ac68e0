import Relata.Model.Json
import Relata.Proofs.Json.Shape
import Relata.Proofs.Rule

/-!
# Models read back from their trees

The tree form of a model says all there is in the model: no text, no order of a list and no missing
id is lost, and no two kinds of subject or of rule are written alike. A model whose tree does not
nest too deep is therefore read back from every text of the tree.

## Main results

* `Rule.reads_toJson` — **a rule is read back from its tree**, given fuel for its depth.
* `Model.reads_toJson` — so is a model.
* `Model.ofJsonText_toJson` — **a model is read back from the text that is written for it.**
-/

namespace Relata

open Json (Value IsNumberless Reads Fills Reader Shape FormDocument)

/-! ### Subjects -/

theorem reads_optionalText (s : Option String) :
    Reads (Reader.optional Reader.text) (optionalText s) s := by
  cases s with
  | none => exact Json.reads_optional_null Reader.text
  | some s => exact (Json.reads_text s).optional nofun

/-- A record of one text is read from it. -/
theorem reads_oneText (expected name s : String) :
    Reads (oneText expected name).read (.object [(name, .string s)]) s := by
  have hfind : (oneText expected name).fields.find? (·.name == name) =
      some (Json.field name .required Reader.text fun _ s => s) :=
    List.find?_cons_of_pos (beq_self_eq_true name)
  have hmissing : Shape.missing? (oneText expected name).fields [name] = none := by
    simp [oneText, Shape.missing?, Json.field]
  exact .single hfind ((Json.reads_text s).put _ _ _ _) hmissing

theorem SubjectKind.reads_toJson (k : SubjectKind) : Reads reader k.toJson k := by
  cases k with
  | object => exact Json.reads_bare rfl
  | userset relation => exact Json.reads_full rfl ((reads_oneText _ "relation" relation).map userset)
  | wildcard => exact Json.reads_bare rfl

theorem Subject.reads_toJson (s : Subject) : Reads shape.read s.toJson s := by
  have htype := Json.reads_text s.typeName
  have hkind := s.kind.reads_toJson
  have hcondition := reads_optionalText s.condition
  exact Fills.reads (.cons rfl (by decide) (htype.put _ _ _ _)
    (.cons rfl (by decide) (hkind.put _ _ _ _)
      (.cons rfl (by decide) (hcondition.put _ _ _ _) .nil))) rfl

theorem isNumberless_optionalText (s : Option String) : IsNumberless (optionalText s) := by
  cases s with
  | none => exact .null
  | some s => exact .string s

theorem Subject.isNumberless_toJson (s : Subject) : IsNumberless s.toJson := by
  have hkind : IsNumberless s.kind.toJson := by
    cases s.kind with
    | userset relation => simp [SubjectKind.toJson]
    | _ => exact .string _
  simp [toJson, hkind, isNumberless_optionalText]

/-! ### Rules -/

namespace Rule

theorem toJsons_eq_map (es : List Rule) : toJsons es = es.map toJson := by
  induction es with
  | nil => rfl
  | cons e es ih => rw [toJsons, ih, List.map_cons]

/-- The operands of a set operation nest less deep than its tree. -/
theorem depth_toJson_lt {es : List Rule} {e : Rule} (he : e ∈ es) (name : String) :
    e.toJson.depth < (Value.object [(name, .object [("children", .array (toJsons es))])]).depth := by
  have helement : e.toJson.depth < (Value.array (toJsons es)).depth := by
    rw [toJsons_eq_map]
    exact Value.depth_lt_array (List.mem_map_of_mem he)
  rw [Value.depth_single, Value.depth_single]
  omega

theorem depth_difference_toJson_lt (base subtract : Rule) :
    base.toJson.depth < (difference base subtract).toJson.depth ∧
      subtract.toJson.depth < (difference base subtract).toJson.depth := by
  rw [toJson, Value.depth_single]
  exact (Value.depth_lt_pair _ _ _ _).imp Nat.lt_succ_of_lt Nat.lt_succ_of_lt

section Readers

variable {fuel : Nat}

/-- The operands of a set operation are read in their order. -/
theorem reads_children (expected : String) {es : List Rule}
    (h : ∀ e ∈ es, Reads (readerWithin fuel) e.toJson e) :
    Reads (Shape.read ⟨expected,
        [Json.field "children" .required (Reader.list (readerWithin fuel)) fun _ v => v], []⟩)
      (.object [("children", .array (toJsons es))]) es := by
  have hlist := Reads.list_of_map h
  rw [← toJsons_eq_map] at hlist
  exact .single rfl (hlist.put _ _ _ _) rfl

/-- **A rule is read back from its tree.** -/
theorem reads_toJson {e : Rule} (hfuel : e.toJson.depth < fuel) :
    Reads (readerWithin fuel) e.toJson e := by
  obtain ⟨fuel, rfl⟩ : ∃ k, fuel = k + 1 := ⟨fuel - 1, by omega⟩
  -- each operator takes one unit of fuel, and its operands are written less deep than it
  induction e generalizing fuel with
  | direct subjects =>
    have hsubjects := Reads.list_of_map fun s (_ : s ∈ subjects) => s.reads_toJson
    refine Json.reads_full rfl (Reads.map ?_ direct)
    exact .single rfl (hsubjects.put _ _ _ _) rfl
  | computed relation =>
    exact Json.reads_full rfl ((reads_oneText _ "relation" relation).map computed)
  | fromTupleset tupleset relation =>
    have htupleset := Json.reads_text tupleset
    have hrelation := Json.reads_text relation
    refine Json.reads_full rfl (Reads.map (a := (tupleset, relation)) ?_
      fun p : String × String => fromTupleset p.1 p.2)
    exact Fills.reads (.cons rfl (by decide) (htupleset.put _ _ _ _)
      (.cons rfl (by decide) (hrelation.put _ _ _ _) .nil)) rfl
  | union children ih =>
    have hchildren : ∀ e ∈ children, Reads (readerWithin fuel) e.toJson e := by
      intro e he
      have hlt : e.toJson.depth < (union children).toJson.depth := depth_toJson_lt he "Union"
      obtain ⟨fuel, rfl⟩ : ∃ k, fuel = k + 1 := ⟨fuel - 1, by omega⟩
      exact ih e he fuel (by omega)
    exact Json.reads_full rfl ((reads_children _ hchildren).map union)
  | intersection children ih =>
    have hchildren : ∀ e ∈ children, Reads (readerWithin fuel) e.toJson e := by
      intro e he
      have hlt : e.toJson.depth < (intersection children).toJson.depth :=
        depth_toJson_lt he "Intersection"
      obtain ⟨fuel, rfl⟩ : ∃ k, fuel = k + 1 := ⟨fuel - 1, by omega⟩
      exact ih e he fuel (by omega)
    exact Json.reads_full rfl ((reads_children _ hchildren).map intersection)
  | difference base subtract ihb ihs =>
    obtain ⟨hbaseDepth, hsubtractDepth⟩ := depth_difference_toJson_lt base subtract
    obtain ⟨fuel, rfl⟩ : ∃ k, fuel = k + 1 := ⟨fuel - 1, by omega⟩
    have hbase : Reads (readerWithin (fuel + 1)) base.toJson base := ihb fuel (by omega)
    have hsubtract : Reads (readerWithin (fuel + 1)) subtract.toJson subtract :=
      ihs fuel (by omega)
    refine Json.reads_full rfl (Reads.map (a := (base, subtract)) ?_
      fun p : Rule × Rule => difference p.1 p.2)
    exact Fills.reads (.cons rfl (by decide) (hbase.put _ _ _ _)
      (.cons rfl (by decide) (hsubtract.put _ _ _ _) .nil)) rfl

end Readers

theorem isNumberless_toJson (e : Rule) : IsNumberless e.toJson := by
  induction e with
  | direct subjects => simp [toJson, Subject.isNumberless_toJson]
  | computed relation => simp [toJson]
  | fromTupleset tupleset relation => simp [toJson]
  | union children ih => simpa [toJson, toJsons_eq_map] using ih
  | intersection children ih => simpa [toJson, toJsons_eq_map] using ih
  | difference base subtract ihb ihs => simp [toJson, ihb, ihs]

end Rule

/-! ### Models -/

theorem Relation.reads_toJson {r : Relation} (h : r.toJson.depth ≤ Json.nestingLimit) :
    Reads shape.read r.toJson r := by
  have hdepth : r.rule.toJson.depth < r.toJson.depth :=
    Value.depth_lt_object (m := ("rewrite", _)) (by simp)
  have hname := Json.reads_text r.name
  have hrule : Reads Rule.reader r.rule.toJson r.rule := Rule.reads_toJson (by omega)
  exact Fills.reads (.cons rfl (by decide) (hname.put _ _ _ _)
    (.cons rfl (by decide) (hrule.put _ _ _ _) .nil)) rfl

theorem TypeDefinition.reads_toJson {t : TypeDefinition} (h : t.toJson.depth ≤ Json.nestingLimit) :
    Reads shape.read t.toJson t := by
  have hname := Json.reads_text t.name
  have hrelations : Reads (Reader.list Relation.shape.read)
      (.array (t.relations.map Relation.toJson)) t.relations := by
    refine Reads.list_of_map fun r hr => Relation.reads_toJson ?_
    have hlt : r.toJson.depth < t.toJson.depth := by
      refine Value.depth_lt_listed "relations" ?_ (List.mem_map_of_mem hr)
      exact List.mem_cons_of_mem _ List.mem_cons_self
    omega
  exact Fills.reads (.cons rfl (by decide) (hname.put _ _ _ _)
    (.cons rfl (by decide) (hrelations.put _ _ _ _) .nil)) rfl

theorem Condition.reads_toJson (c : Condition) : Reads shape.read c.toJson c := by
  have hname := Json.reads_text c.name
  have hexpression := Json.reads_text c.expression
  have hparameters : Reads (Reader.list (Reader.pair Reader.text Reader.text))
      (.array (c.parameters.map fun p => .array [.string p.1, .string p.2])) c.parameters :=
    Reads.list_of_map fun p _ => (Json.reads_text p.1).pair (Json.reads_text p.2)
  exact Fills.reads (.cons rfl (by decide) (hname.put _ _ _ _)
    (.cons rfl (by decide) (hexpression.put _ _ _ _)
      (.cons rfl (by decide) (hparameters.put _ _ _ _) .nil))) rfl

namespace Model

/-- **A model is read back from its tree**, in whatever document the tree stands. -/
theorem reads_toJson {m : Model} (h : m.toJson.depth ≤ Json.nestingLimit) :
    Reads shape.read m.toJson m := by
  have hid := reads_optionalText m.id
  have hversion := Json.reads_text m.schemaVersion
  have htypes : Reads (Reader.list TypeDefinition.shape.read)
      (.array (m.types.map TypeDefinition.toJson)) m.types := by
    refine Reads.list_of_map fun t ht => TypeDefinition.reads_toJson ?_
    have hlt : t.toJson.depth < m.toJson.depth := by
      refine Value.depth_lt_listed "type_definitions" ?_ (List.mem_map_of_mem ht)
      exact List.mem_cons_of_mem _ (List.mem_cons_of_mem _ List.mem_cons_self)
    omega
  have hconditions := Reads.list_of_map fun c (_ : c ∈ m.conditions) => c.reads_toJson
  exact Fills.reads (.cons rfl (by decide) (hid.put _ _ _ _)
    (.cons rfl (by decide) (hversion.put _ _ _ _)
      (.cons rfl (by decide) (htypes.put _ _ _ _)
        (.cons rfl (by decide) (hconditions.put _ _ _ _) .nil)))) rfl

/-- No part of a model is a number. -/
theorem isNumberless_toJson (m : Model) : IsNumberless m.toJson := by
  have htypes : ∀ t : TypeDefinition, IsNumberless t.toJson := by
    intro t
    simp [TypeDefinition.toJson, Relation.toJson, Rule.isNumberless_toJson]
  have hconditions : ∀ c : Condition, IsNumberless c.toJson := by
    intro c
    have hparameters : IsNumberless
        (.array (c.parameters.map fun p => .array [.string p.1, .string p.2])) :=
      .array (List.forall_mem_map.mpr fun p _ => by simp)
    rw [Condition.toJson, Json.isNumberless_object]
    simp only [List.forall_mem_cons]
    exact ⟨.string _, .string _, hparameters, List.forall_mem_nil _⟩
  simp [toJson, isNumberless_optionalText, htypes, hconditions]

/-- **A model is read back from the text that is written for it**, and from any other text of its
tree, whatever stands between the tokens and however the strings are escaped. -/
theorem ofJsonText_toJson {m : Model} (hdepth : m.toJson.depth ≤ Json.nestingLimit) :
    ofJsonText m.toJson.render = .ok m ∧
      ∀ text : String, FormDocument m.toJson.form text.toList → ofJsonText text = .ok m := by
  have hread := reads_toJson hdepth
  have hwritten : FormDocument m.toJson.form m.toJson.render.toList :=
    m.isNumberless_toJson.formDocument
  exact ⟨hread.decode_eq hwritten hdepth, fun _ htext => hread.decode_eq htext hdepth⟩

/-- A model with every kind of subject and of rule, with empty lists and with characters that are
escaped in its texts. -/
def escapedDocuments : Model where
  id := none
  schemaVersion := "1.1"
  types := [⟨"user", []⟩,
    ⟨"doc\"", [⟨"parent\n", .direct []⟩,
      ⟨"banned", .direct [⟨"user", .object, some "late"⟩]⟩,
      ⟨"viewer", .difference
        (.union [.direct [⟨"user", .wildcard, none⟩, ⟨"doc\"", .userset "viewer", none⟩],
          .fromTupleset "parent\n" "viewer", .intersection []])
        (.intersection [.computed "banned"])⟩]⟩]
  conditions := [⟨"late", "now > end", [("now", "timestamp"), ("now", "\x01\\")]⟩, ⟨"", "", []⟩]

theorem ofJsonText_escapedDocuments :
    escapedDocuments.toJson.depth ≤ Json.nestingLimit ∧
      ofJsonText escapedDocuments.toJson.render = .ok escapedDocuments := by
  have hdepth : escapedDocuments.toJson.depth ≤ Json.nestingLimit := by decide
  exact ⟨hdepth, (ofJsonText_toJson hdepth).1⟩

end Model

end Relata
