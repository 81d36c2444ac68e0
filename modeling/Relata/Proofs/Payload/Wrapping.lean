import Relata.Proofs.Json.Memory
import Relata.Proofs.Json.Uniform
import Relata.Server.Retrieval

/-!
# Payloads alone, wrapped and listed

A server gives one model wrapped in an object and the latest one in a list, and a file may hold the
payload by itself. The same text at these three places is read as the same payload. What is read of
it goes by its form; only the look at the whole text for a wrapper is special to the first two.

## Main definitions

* `wrappedText`, `listedText` — a text with what a server puts around it.
* `payloadLimit` — how deep a payload may nest at all three places.

## Main results

* `ModelPayload.isUniform_read` — a payload goes by the form of its text.
* `ModelPayload.toOption_ofText_wrappedText` — a payload is read alike, alone and wrapped.
* `ModelPayload.decode_listedText` — and so it is in a list, if it is read at all.
* `ModelPayload.isSame_wrapped_listed` — **at all three places it is the same model, or the same
  error.**
-/

namespace Relata

open Json (Form FormText FormDocument NamedText Shows NamedShows IsUniform Reader Node Value Document
  Shape)

/-! ### Payloads go by their form -/

theorem isUniform_metadata : IsUniform metadataShape.read := by
  refine Shape.isUniform_read fun f hf s => ?_
  obtain rfl := List.mem_singleton.mp hf
  exact Json.isUniform_members.optional.put _ _ _ _

theorem TypePayload.isUniform_read : IsUniform TypePayload.shape.read := by
  refine Shape.isUniform_read fun f hf s => ?_
  simp only [shape, List.mem_cons, List.not_mem_nil, or_false] at hf
  rcases hf with rfl | rfl | rfl
  · exact Json.isUniform_text.put _ _ _ _
  · exact Json.isUniform_tree.entries.optional.put _ _ _ _
  · exact isUniform_metadata.optional.put _ _ _ _

/-- **A payload goes by the form of its text.** -/
theorem ModelPayload.isUniform_read : IsUniform ModelPayload.shape.read := by
  refine Shape.isUniform_read fun f hf s => ?_
  simp only [shape, List.mem_cons, List.not_mem_nil, or_false] at hf
  rcases hf with rfl | rfl | rfl | rfl
  · exact Json.isUniform_text.optional.put _ _ _ _
  · exact Json.isUniform_text.put _ _ _ _
  · exact TypePayload.isUniform_read.list.put _ _ _ _
  · exact Json.isUniform_tree.entries.optional.put _ _ _ _

/-! ### What is put around a text -/

/-- A text as the only member of an object. -/
def memberText (name text : String) : String := "\x7b\"" ++ name ++ "\": " ++ text ++ "\x7d"

/-- A text as a server gives one model. -/
def wrappedText (text : String) : String := memberText "authorization_model" text

/-- A text as a server gives the latest of the models of a store. -/
def listedText (text : String) : String := memberText "authorization_models" ("[" ++ text ++ "]")

/-- A name that is written as it is. -/
def IsPlainName (name : String) : Prop := name.toList.flatMap Json.stringChar = name.toList

theorem isPlainName_ofList {cs : List Char} (h : cs.flatMap Json.stringChar = cs) :
    IsPlainName (String.ofList cs) := by
  rw [IsPlainName, String.toList_ofList, h]

/-- A member whose name is written as it is. -/
theorem namedText_of_isPlainName {name : String} (hname : IsPlainName name) {f : Form}
    {b₁ b₂ t : List Char} (hb₁ : Json.Between b₁) (hb₂ : Json.Between b₂) (ht : FormText f t) :
    NamedText FormText (some name, f)
      ('"' :: (name.toList ++ '"' :: (b₁ ++ ':' :: (b₂ ++ t)))) := by
  obtain ⟨parts, hbody, hstring⟩ := Json.stringBody_string name
  rw [hname] at hbody
  rw [← hstring]
  exact .mk hbody hb₁ hb₂ ht

theorem formDocument_memberText {name : String} (hname : IsPlainName name) {f : Form}
    {text : String} (h : FormDocument f text.toList) :
    FormDocument (.object [(some name, f)]) (memberText name text).toList := by
  generalize htext : text.toList = s at h
  cases h with
  | @mk b₁ t b₂ hb₁ ht hb₂ =>
    have hblank : Json.Between (' ' :: b₁) := List.forall_mem_cons.mpr ⟨by decide, hb₁⟩
    have hnamed := namedText_of_isPlainName hname Json.between_nil hblank ht
    have hobject := FormDocument.mk Json.between_nil
      (.object Json.between_nil (.single hnamed hb₂)) Json.between_nil
    have hopening : "\x7b\"".toList = ['\x7b', '"'] := String.toList_ofList
    have hcolon : "\": ".toList = ['"', ':', ' '] := String.toList_ofList
    have hclosing : "\x7d".toList = ['\x7d'] := String.toList_ofList
    simp only [memberText, String.toList_append, htext, hopening, hcolon, hclosing]
    simpa only [List.nil_append, List.append_nil, List.cons_append, List.append_assoc] using hobject

theorem formDocument_list {f : Form} {text : String} (h : FormDocument f text.toList) :
    FormDocument (.array [f]) ("[" ++ text ++ "]").toList := by
  generalize htext : text.toList = s at h
  cases h with
  | @mk b₁ t b₂ hb₁ ht hb₂ =>
    have hlist := FormDocument.mk Json.between_nil (.array hb₁ (.single ht hb₂)) Json.between_nil
    have hopening : "[".toList = ['['] := String.toList_ofList
    have hclosing : "]".toList = [']'] := String.toList_ofList
    simp only [String.toList_append, htext, hopening, hclosing]
    simpa only [List.nil_append, List.append_nil, List.cons_append, List.append_assoc] using hlist

theorem formDocument_wrappedText {f : Form} {text : String} (h : FormDocument f text.toList) :
    FormDocument (.object [(some "authorization_model", f)]) (wrappedText text).toList :=
  formDocument_memberText (isPlainName_ofList (by decide)) h

theorem formDocument_listedText {f : Form} {text : String} (h : FormDocument f text.toList) :
    FormDocument (.object [(some "authorization_models", .array [f])])
      (listedText text).toList :=
  formDocument_memberText (isPlainName_ofList (by decide)) (formDocument_list h)

/-! ### Objects with one member -/

section Single

variable {name : String} {f : Form} {n : Node}

/-- The only member of an object is a part that shows what is in it. -/
theorem shows_single (h : Shows (.object [(some name, f)]) n) :
    ∃ start key m ending, n = .object start false [(key, m)] ending ∧ key.name = .ok name ∧
      Shows f m ∧ ending.broken? = none := by
  cases h with
  | object hnodes hending =>
    cases hnodes with
    | cons hm hrest =>
      cases hrest
      cases hm with
      | mk hkey hm => exact ⟨_, _, _, _, rfl, toOption_eq_some.mp hkey, hm, hending⟩

/-- A record of one member is that member. -/
theorem toOption_read_single {α : Type} {reader : Reader α} (hreader : IsUniform reader)
    {shape : Shape α} {presence : Json.Presence}
    (hfields : shape.fields = [Json.field name presence reader fun _ v => v])
    (h : Shows (.object [(some name, f)]) n) {m : Node} (hm : Shows f m) :
    (shape.read n).toOption = (reader m).toOption := by
  obtain ⟨start, key, m', ending, rfl, hkey, hm', hending⟩ := shows_single h
  have hread : ((Json.field name presence reader fun _ v => v).put shape.blank m').toOption =
      (reader m').toOption := by
    show ((fun v => v) <$> reader m').toOption = _
    rw [toOption_map, Option.map_id']
  have hfind : shape.fields.find? (·.name == name) =
      some (Json.field name presence reader fun _ v => v) := by
    rw [hfields]
    exact List.find?_cons_of_pos (beq_self_eq_true name)
  have hmissing : Shape.missing? shape.fields [name] = none := by
    simp [hfields, Shape.missing?, Json.field]
  have hmembers : Shape.readMembers shape.fields [] shape.blank [(key, m')] =
      (fun v => ([name], v)) <$> Reader.inside '\x7d'
        ((Json.field name presence reader fun _ v => v).put shape.blank) m' := by
    rw [Shape.readMembers, hkey]
    simp only [bind, Except.bind, hfind, List.contains_nil, Bool.false_eq_true, if_false]
    rfl
  rw [← hreader f m' m hm' hm, ← hread, Shape.read, hmembers]
  simp only [Bool.false_eq_true, if_false, toOption_bind, toOption_map, Json.Ending.guard_eq hending,
    Reader.inside, toOption_mapError]
  cases ((Json.field name presence reader fun _ v => v).put shape.blank m').toOption with
  | none => rfl
  | some v =>
    simp only [Option.map_some, Option.bind_some, Except.toOption, hmissing]
    rfl

/-- The value of an object with one member. -/
theorem toOption_value_single (h : Shows (.object [(some name, f)]) n) {m : Node} (hm : Shows f m) :
    n.value.toOption = m.value.toOption.map fun v => .object [(name, v)] := by
  obtain ⟨start, key, m', ending, rfl, hkey, hm', hending⟩ := shows_single h
  have hvalue : m'.value.toOption = m.value.toOption := Json.isUniform_tree f m' m hm' hm
  have hmembers : Node.memberValues [] [(key, m')] = (fun v => [(name, v)]) <$> m'.value := by
    rw [Node.memberValues, hkey]
    rfl
  rw [← hvalue, Node.value, hmembers]
  simp only [Bool.false_eq_true, if_false, toOption_bind, toOption_map,
    Json.Ending.guard_eq hending]
  cases m'.value.toOption with
  | none => rfl
  | some v => rfl

end Single

/-- An object without members of a name has none of that name. -/
theorem entries_eq_nil {name : String} {members : List (Option String × Form)}
    (hname : some name ∉ members.map Prod.fst) : (Form.object members).entries name = [] := by
  rw [Form.entries, List.map_eq_nil_iff, List.filter_eq_nil_iff]
  intro m hm hfirst
  exact hname (List.mem_map.mpr ⟨m, hm, by simpa using hfirst⟩)

/-! ### The three places -/

namespace ModelPayload

/-- What a text holds is what is read of it in the shape that it has. -/
theorem toOption_ofText {text : String} {n : Node}
    (hread : Document.read text.toList = ⟨text.toList, n, none⟩) (chosen : Shape ModelPayload)
    (hchosen : ∀ v, n.value = .ok v →
      (if (v.get? "authorization_model").isSome then wrappedShape else shape) = chosen) :
    (ofText text).toOption = n.value.toOption.bind fun _ => (chosen.read n).toOption := by
  rw [ofText, hread, Document.value, Document.run_eq]
  cases hvalue : n.value with
  | error f => rfl
  | ok v =>
    simp only [Document.run_eq, hchosen v hvalue, toOption_mapError]
    rfl

/-- An object without the name is no wrapper. -/
theorem toOption_ofText_bare {members : List (Option String × Form)}
    (hname : some "authorization_model" ∉ members.map Prod.fst) {text : String} {n : Node}
    (hread : Document.read text.toList = ⟨text.toList, n, none⟩) (hn : Shows (.object members) n) :
    (ofText text).toOption = n.value.toOption.bind fun _ => (shape.read n).toOption := by
  refine toOption_ofText hread shape fun v hv => ?_
  rw [(Json.get?_eq_none_iff hn hv _).mpr (entries_eq_nil hname)]
  rfl

/-- A wrapper is read as what is in it. -/
theorem toOption_ofText_wrapper {f : Form} {text : String} {n m : Node}
    (hread : Document.read text.toList = ⟨text.toList, n, none⟩)
    (hn : Shows (.object [(some "authorization_model", f)]) n) (hm : Shows f m) :
    (ofText text).toOption = m.value.toOption.bind fun _ => (shape.read m).toOption := by
  have hvalue := toOption_value_single hn hm
  have hinner : (wrappedShape.read n).toOption = (shape.read m).toOption :=
    toOption_read_single isUniform_read rfl hn hm
  rw [toOption_ofText hread wrappedShape, hvalue, hinner]
  · cases m.value.toOption with
    | none => rfl
    | some v => rfl
  · intro v hv
    rw [hv] at hvalue
    obtain ⟨w, -, hw⟩ := Option.map_eq_some_iff.mp hvalue.symm
    rw [← hw]
    rfl

end ModelPayload

/-- How deep a payload may nest, so that a list of it in an object does not nest too deep. -/
def payloadLimit : Nat := 125

section Places

variable {members : List (Option String × Form)} {text : String}
  (hdocument : FormDocument (.object members) text.toList)
  (hdepth : (Form.object members).depth ≤ payloadLimit)
  (hname : some "authorization_model" ∉ members.map Prod.fst)

include hdocument hdepth hname

/-- A payload is read alike, alone and wrapped. -/
theorem ModelPayload.toOption_ofText_wrappedText :
    (ofText (wrappedText text)).toOption = (ofText text).toOption := by
  have hlimit : payloadLimit < Json.nestingLimit := by decide
  have hwrapped : (Form.object [(some "authorization_model", .object members)]).depth ≤
      Json.nestingLimit := by
    rw [Form.depth, Form.depthOfMembers, Form.depthOfMembers]
    omega
  obtain ⟨n, hread, hn⟩ := hdocument.read (by omega)
  obtain ⟨n', hread', hn'⟩ := (formDocument_wrappedText hdocument).read hwrapped
  rw [toOption_ofText_wrapper hread' hn' hn, toOption_ofText_bare hname hread hn]

/-- A payload that is read alone is read in a list. -/
theorem ModelPayload.decode_listedText {p : ModelPayload} (h : ofText text = .ok p) :
    Document.decode (listedText text) modelListShape.read = .ok [p] := by
  have hlimit : payloadLimit + 2 = Json.nestingLimit := by decide
  have hlisted : (Form.object
      [(some "authorization_models", .array [.object members])]).depth ≤ Json.nestingLimit := by
    rw [Form.depth, Form.depthOfMembers, Form.depthOfMembers, Form.depth, Form.depthOf,
      Form.depthOf]
    omega
  obtain ⟨n, hread, hn⟩ := hdocument.read (by omega)
  obtain ⟨n', hread', hn'⟩ := (formDocument_listedText hdocument).read hlisted
  -- what is read alone has the shape of a payload
  have hpayload : shape.read n = .ok p := by
    have hp := toOption_ofText_bare hname hread hn
    rw [h] at hp
    obtain ⟨v, -, hp⟩ := Option.bind_eq_some_iff.mp hp.symm
    exact toOption_eq_some.mp hp
  have hlist : Reader.list shape.read (.array 0 false [n] .held) = .ok [p] := by
    simp only [Reader.list, Reader.elements, Reader.inside, hpayload]
    rfl
  have hfound : modelListShape.read n' = .ok [p] := by
    rw [← toOption_eq_some, toOption_read_single isUniform_read.list rfl hn'
      (m := .array 0 false [n] .held) (.array (.cons hn .nil) rfl), hlist]
    rfl
  rw [Document.decode, hread', Document.run_eq, hfound]
  rfl

end Places

namespace ModelQuery

variable {q : ModelQuery} {p : ModelPayload} {body : String}

/-- The reply with one model is read as a payload. -/
theorem ofBody_of_id (hq : q.modelId.isSome) (h : ModelPayload.ofText body = .ok p) :
    q.ofBody body = .ok p := by
  obtain ⟨id, hid⟩ := Option.isSome_iff_exists.mp hq
  rw [ofBody, hid, Model.payloadOfJson, h]
  rfl

/-- The reply with a list is read as the first payload in it. -/
theorem ofBody_of_latest (hq : q.modelId = none)
    (h : Document.decode body modelListShape.read = .ok [p]) : q.ofBody body = .ok p := by
  rw [ofBody, hq, h]
  rfl

theorem ofReply_of_ofBody {status : Status} (hstatus : status.isSuccess = true)
    (h : q.ofBody body = .ok p) (sent : Request) :
    q.ofReply sent (.answered status body) = (Model.ofPayload p).mapError .model := by
  rw [ofReply, hstatus, h]
  rfl

end ModelQuery

/-- **A payload is the same at all three places.** Alone and wrapped, a text is read as the same
payload or not at all; a payload that is read is also the first of the list. A model that is asked
for by its id is therefore the same as the latest one, or the same problem. -/
theorem ModelPayload.isSame_wrapped_listed {members : List (Option String × Form)} {text : String}
    (hdocument : FormDocument (.object members) text.toList)
    (hdepth : (Form.object members).depth ≤ payloadLimit)
    (hname : some "authorization_model" ∉ members.map Prod.fst) :
    (∀ p, ofText text = .ok p ↔ ofText (wrappedText text) = .ok p) ∧
      ∀ p, ofText text = .ok p →
        Document.decode (listedText text) modelListShape.read = .ok [p] ∧
        ∀ byId latest : ModelQuery, byId.modelId.isSome → latest.modelId = none →
          ∀ (status : Status) (sent : Request), status.isSuccess = true →
            byId.ofReply sent (.answered status text) = (Model.ofPayload p).mapError .model ∧
            byId.ofReply sent (.answered status (wrappedText text)) =
              (Model.ofPayload p).mapError .model ∧
            latest.ofReply sent (.answered status (listedText text)) =
              (Model.ofPayload p).mapError .model := by
  have hwrapped := toOption_ofText_wrappedText hdocument hdepth hname
  have hsame : ∀ p, ofText text = .ok p ↔ ofText (wrappedText text) = .ok p := by
    intro p
    rw [← toOption_eq_some, ← toOption_eq_some, hwrapped]
  refine ⟨hsame, fun p hp => ?_⟩
  have hlisted := decode_listedText hdocument hdepth hname hp
  refine ⟨hlisted, fun byId latest hbyId hlatest status sent hstatus => ⟨?_, ?_, ?_⟩⟩
  · exact ModelQuery.ofReply_of_ofBody hstatus (ModelQuery.ofBody_of_id hbyId hp) sent
  · have hp' := (hsame p).mp hp
    exact ModelQuery.ofReply_of_ofBody hstatus (ModelQuery.ofBody_of_id hbyId hp') sent
  · exact ModelQuery.ofReply_of_ofBody hstatus (ModelQuery.ofBody_of_latest hlatest hlisted) sent

/-- A payload with a type that is written as a list, and with a note that comes twice. -/
def notedText : String :=
  "\x7b\"note\": -7, \"note\": null, \"type_definitions\": [[\"user\"]]\x7d"

/-- What the text holds. -/
def notedMembers : List (Option String × Form) :=
  [(some "note", .number (some (.integer (-7)))), (some "note", .null),
    (some "type_definitions", .array [.array [.string (some "user")]])]

theorem formDocument_notedText : FormDocument (.object notedMembers) notedText.toList := by
  have hblank : Json.Between [' '] := by simp [Json.Between, Json.isGap]
  have hnote : IsPlainName "note" := isPlainName_ofList (by decide)
  have htypes : IsPlainName "type_definitions" := isPlainName_ofList (by decide)
  have hwhole : Json.WholeText ['7'] := ⟨⟨by decide, by decide⟩, by decide⟩
  have hseven : FormText (.number (some (.integer (-7)))) ['-', '7'] :=
    .number (.mk .present hwhole .absent .absent)
  have huser : FormText (.array [.string (some "user")]) _ :=
    .array Json.between_nil (.single (Json.formText_string "user") Json.between_nil)
  have hobject := FormDocument.mk Json.between_nil (.object Json.between_nil
    (.cons (namedText_of_isPlainName hnote Json.between_nil hblank hseven) Json.between_nil hblank
      (.cons (namedText_of_isPlainName hnote Json.between_nil hblank .null) Json.between_nil hblank
        (.single (namedText_of_isPlainName htypes Json.between_nil hblank
          (.array Json.between_nil (.single huser Json.between_nil))) Json.between_nil))))
    Json.between_nil
  have htext : notedText.toList = _ := String.toList_ofList
  rw [htext]
  exact hobject

/-- The text is read as a payload with one type. -/
theorem ModelPayload.ofText_notedText :
    ofText notedText = .ok ⟨none, "1.1", [⟨"user", none, none⟩], none⟩ := by
  obtain ⟨n, hread, hn⟩ := formDocument_notedText.read (by decide)
  -- the same form with all offsets zero
  have hheld : Shows (.object notedMembers) (.object 0 false
      [(⟨.ok "note", 0⟩, .number 0 0 (.integer (-7))), (⟨.ok "note", 0⟩, .null 0 0),
        (⟨.ok "type_definitions", 0⟩,
          .array 0 false [.array 0 false [.string 0 0 "user"] .held] .held)] .held) :=
    .object (.cons (.mk rfl (.number _ 0 0)) (.cons (.mk rfl (.null 0 0)) (.cons (.mk rfl
      (.array (.cons (.array (.cons (.string "user" 0 0) .nil) rfl) .nil) rfl)) .nil))) rfl
  have hvalue : n.value.toOption = _ := Json.isUniform_tree _ _ _ hn hheld
  rw [← toOption_eq_some, toOption_ofText_bare (by decide) hread hn, hvalue,
    isUniform_read _ _ _ hn hheld]
  rfl

theorem ModelPayload.isSame_notedText :
    FormDocument (.object notedMembers) notedText.toList ∧
      (Form.object notedMembers).depth ≤ payloadLimit ∧
      some "authorization_model" ∉ notedMembers.map Prod.fst ∧
      ∃ p, ofText notedText = .ok p ∧ ofText (wrappedText notedText) = .ok p ∧
        Document.decode (listedText notedText) modelListShape.read = .ok [p] ∧
        ∀ sent : Request,
          ModelQuery.ofReply ⟨"http://localhost", "store", some "01", none⟩ sent
              (.answered ⟨200⟩ (wrappedText notedText)) = (Model.ofPayload p).mapError .model ∧
            ModelQuery.ofReply ⟨"http://localhost", "store", none, none⟩ sent
              (.answered ⟨200⟩ (listedText notedText)) = (Model.ofPayload p).mapError .model := by
  have hdepth : (Form.object notedMembers).depth ≤ payloadLimit := by decide
  have hname : some "authorization_model" ∉ notedMembers.map Prod.fst := by decide
  obtain ⟨hwrapped, hsame⟩ := isSame_wrapped_listed formDocument_notedText hdepth hname
  have hread := ofText_notedText
  obtain ⟨hlisted, hreplies⟩ := hsame _ hread
  have hreply := fun sent => hreplies ⟨"http://localhost", "store", some "01", none⟩
    ⟨"http://localhost", "store", none, none⟩ rfl rfl ⟨200⟩ sent rfl
  exact ⟨formDocument_notedText, hdepth, hname, _, hread, (hwrapped _).mp hread, hlisted,
    fun sent => (hreply sent).2⟩

end Relata
