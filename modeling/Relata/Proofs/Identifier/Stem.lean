import Mathlib.Data.List.TakeWhile
import Relata.Proofs.Identifier

/-!
# Stems keep the characters of identifiers

The stem of an identifier is the identifier without the underscores that are not at its start, and
with a capital at the start of each segment between them.

## Main definitions

* `capitalize` — a segment with a capital at its start.
* `IsStemOf` — what a stem keeps of an identifier.

## Main results

* `joinSegments_eq` — what is joined are the segments between underscores.
* `pascalCaseChars_eq_self` — a stem is its own stem.
* `isStemOf_pascalCase_sanitize` — **the stem of a name.**
-/

namespace Relata

/-! ### Characters -/

/-- What the capital of an identifier character is not. -/
theorem toUpper_eq_underscore {c : Char} (h : isIdentifierChar c = true) :
    c.toUpper = '_' ↔ c = '_' := by
  refine forall_ascii (P := fun c => c.toUpper = '_' ↔ c = '_') ?_ (toNat_lt_of_isIdentifierChar h)
  decide

theorem toUpper_eq_self {c : Char} (h : isIdentifierChar c = true) (hlower : c.isLower = false) :
    c.toUpper = c := by
  refine forall_ascii (P := fun c => c.isLower = false → c.toUpper = c) ?_
    (toNat_lt_of_isIdentifierChar h) hlower
  decide

/-! ### Segments -/

/-- A segment with a capital at its start. -/
def capitalize : List Char → List Char
  | [] => []
  | c :: cs => c.toUpper :: cs

@[simp] theorem capitalize_nil : capitalize [] = [] := rfl

@[simp] theorem capitalize_cons (c : Char) (cs : List Char) :
    capitalize (c :: cs) = c.toUpper :: cs := rfl

/-- An underscore starts a segment, and any other character belongs to the first one. -/
theorem splitOn_underscore_cons (c : Char) (cs : List Char) :
    (c :: cs).splitOn '_' =
      if c = '_' then [] :: cs.splitOn '_' else (cs.splitOn '_').modifyHead (c :: ·) := by
  rw [List.splitOn_cons_eq_if_modifyHead]
  simp only [beq_iff_eq]

/-- What is joined are the segments, those behind an underscore with a capital. -/
theorem joinSegments_eq {cs : List Char} (h : ∀ c ∈ cs, isIdentifierChar c = true)
    {seg : List Char} {segs : List (List Char)} (hs : cs.splitOn '_' = seg :: segs)
    (atStart : Bool) :
    joinSegments atStart cs =
      (if atStart then capitalize seg else seg) ++ segs.flatMap capitalize := by
  induction cs generalizing seg segs atStart with
  | nil =>
    obtain ⟨rfl, rfl⟩ : [] = seg ∧ [] = segs := by simpa using hs
    cases atStart <;> rfl
  | cons c cs ih =>
    obtain ⟨hc, hcs⟩ := List.forall_mem_cons.mp h
    obtain ⟨seg', segs', hrest⟩ := List.exists_cons_of_ne_nil (List.splitOn_ne_nil '_' cs)
    rw [splitOn_underscore_cons, hrest] at hs
    rw [joinSegments]
    split at hs
    · next hunderscore =>
      obtain ⟨rfl, rfl⟩ := List.cons.inj hs
      rw [if_pos hunderscore, ih hcs hrest]
      cases atStart <;> simp
    · next hunderscore =>
      obtain ⟨rfl, rfl⟩ := List.cons.inj hs
      rw [if_neg hunderscore, ih hcs hrest, uppercase_of_isIdentifierChar hc]
      cases atStart <;> simp

theorem joinSegments_true_eq {cs : List Char} (h : ∀ c ∈ cs, isIdentifierChar c = true) :
    joinSegments true cs = (cs.splitOn '_').flatMap capitalize := by
  obtain ⟨seg, segs, hs⟩ := List.exists_cons_of_ne_nil (List.splitOn_ne_nil '_' cs)
  rw [joinSegments_eq h hs, hs, List.flatMap_cons, if_pos rfl]

/-- The segments have all the characters that are no underscores. -/
theorem flatten_splitOn_underscore (cs : List Char) :
    (cs.splitOn '_').flatten = cs.filter (· ≠ '_') := by
  induction cs with
  | nil => rfl
  | cons c cs ih =>
    obtain ⟨seg, segs, hs⟩ := List.exists_cons_of_ne_nil (List.splitOn_ne_nil '_' cs)
    rw [splitOn_underscore_cons]
    rw [hs] at ih ⊢
    by_cases hc : c = '_'
    · simpa [hc] using ih
    · simpa [hc] using ih

/-! ### Joined segments -/

section Joined

variable {cs : List Char}

/-- Underscores at the start give no segment. -/
theorem joinSegments_dropWhile (cs : List Char) :
    joinSegments true (cs.dropWhile (· = '_')) = joinSegments true cs := by
  induction cs with
  | nil => rfl
  | cons c cs ih =>
    by_cases hc : c = '_'
    · rw [List.dropWhile_cons_of_pos (by simpa using hc), ih, joinSegments, if_pos hc]
    · rw [List.dropWhile_cons_of_neg (by simpa using hc)]

theorem underscore_notMem_joinSegments (h : ∀ c ∈ cs, isIdentifierChar c = true)
    (atStart : Bool) : '_' ∉ joinSegments atStart cs := by
  induction cs generalizing atStart with
  | nil => simp [joinSegments]
  | cons c cs ih =>
    obtain ⟨hc, hcs⟩ := List.forall_mem_cons.mp h
    rw [joinSegments]
    split
    · exact ih hcs true
    · next hunderscore =>
      have hcapital : '_' ≠ c.toUpper := fun h =>
        hunderscore ((toUpper_eq_underscore hc).mp h.symm)
      split
      · rw [uppercase_of_isIdentifierChar hc, List.singleton_append, List.mem_cons, not_or]
        exact ⟨hcapital, ih hcs false⟩
      · rw [List.mem_cons, not_or]
        exact ⟨Ne.symm hunderscore, ih hcs false⟩

/-- No small letter stands at the start. -/
theorem isLower_head_joinSegments (h : ∀ c ∈ cs, isIdentifierChar c = true) :
    ∀ c ∈ (joinSegments true cs).head?, c.isLower = false := by
  induction cs with
  | nil => simp [joinSegments]
  | cons c cs ih =>
    obtain ⟨hc, hcs⟩ := List.forall_mem_cons.mp h
    rw [joinSegments]
    split
    · exact ih hcs
    · intro d hd
      rw [if_pos rfl, uppercase_of_isIdentifierChar hc] at hd
      obtain rfl : c.toUpper = d := by simpa using hd
      exact (isIdentifierChar_toUpper hc).2.1

theorem joinSegments_false_eq_self (h : '_' ∉ cs) : joinSegments false cs = cs := by
  induction cs with
  | nil => rfl
  | cons c cs ih =>
    obtain ⟨hc, hcs⟩ := not_or.mp (List.mem_cons.not.mp h)
    rw [joinSegments, if_neg (Ne.symm hc), if_neg Bool.false_ne_true, ih hcs]

/-- **A stem is its own stem**: underscores, and a segment that starts with no small letter. -/
theorem pascalCaseChars_eq_self {underscores body : List Char}
    (hunderscores : ∀ c ∈ underscores, c = '_') (hchars : ∀ c ∈ body, isIdentifierChar c = true)
    (hbody : '_' ∉ body) (hhead : ∀ c ∈ body.head?, c.isLower = false) :
    pascalCaseChars (underscores ++ body) = underscores ++ body := by
  have hall : ∀ c ∈ underscores, decide (c = '_') = true := by simpa using hunderscores
  rw [pascalCaseChars, List.takeWhile_append_of_pos hall, List.dropWhile_append_of_pos hall]
  cases body with
  | nil => simp [joinSegments]
  | cons c body =>
    obtain ⟨hc, hbody⟩ := not_or.mp (List.mem_cons.not.mp hbody)
    have hchar : isIdentifierChar c = true := hchars c List.mem_cons_self
    rw [List.takeWhile_cons_of_neg (by simpa using Ne.symm hc),
      List.dropWhile_cons_of_neg (by simpa using Ne.symm hc), joinSegments, if_neg (Ne.symm hc),
      if_pos rfl, uppercase_of_isIdentifierChar hchar, toUpper_eq_self hchar (hhead c rfl),
      joinSegments_false_eq_self hbody]
    simp

end Joined

/-! ### Stems -/

/-- What the stem `s` keeps of the identifier `i`. -/
structure IsStemOf (i s : String) : Prop where
  /-- It is a word of identifier characters that starts with no digit. -/
  isStem : IsStem s
  /-- Its underscores are those at the start of the identifier, and no small letter follows them. -/
  start : ∃ body, s.toList = i.toList.takeWhile (· = '_') ++ body ∧ '_' ∉ body ∧
    ∀ c ∈ body.head?, c.isLower = false
  /-- Otherwise it has the segments between the underscores of the identifier, each with a capital
  in the place of its first letter. -/
  segments : s.toList.filter (· ≠ '_') = (i.toList.splitOn '_').flatMap capitalize
  /-- These segments have all the other characters of the identifier. -/
  characters : i.toList.filter (· ≠ '_') = (i.toList.splitOn '_').flatten
  pascalCase_eq : pascalCase s = s

theorem IsIdentifier.isStemOf_pascalCase {i : String} (h : IsIdentifier i) :
    IsStemOf i (pascalCase i) := by
  have hlist : (pascalCase i).toList =
      i.toList.takeWhile (· = '_') ++ joinSegments true i.toList := by
    rw [pascalCase, String.toList_ofList, pascalCaseChars, joinSegments_dropWhile]
  have hunderscores : ∀ c ∈ i.toList.takeWhile (· = '_'), c = '_' := fun c hc => by
    simpa using List.mem_takeWhile_imp hc
  have hbody : '_' ∉ joinSegments true i.toList := underscore_notMem_joinSegments h.chars true
  have hhead := isLower_head_joinSegments h.chars
  refine ⟨h.isStem_pascalCase, ⟨_, hlist, hbody, hhead⟩, ?_,
    (flatten_splitOn_underscore i.toList).symm, ?_⟩
  · have hdrop : (i.toList.takeWhile (· = '_')).filter (· ≠ '_') = [] :=
      List.filter_eq_nil_iff.mpr fun c hc => by simpa using hunderscores c hc
    have hkeep : (joinSegments true i.toList).filter (· ≠ '_') = joinSegments true i.toList :=
      List.filter_eq_self.mpr fun c hc => by simpa using ne_of_mem_of_not_mem hc hbody
    rw [hlist, List.filter_append, hdrop, hkeep, List.nil_append, joinSegments_true_eq h.chars]
  · rw [pascalCase, hlist, pascalCaseChars_eq_self hunderscores
      (fun c => isIdentifierChar_of_mem_joinSegments h.chars) hbody hhead, ← hlist,
      String.ofList_toList]

/-- **The stem of a name** starts no declaration with a digit or a small letter, has the underscores
at the start of the name's identifier and no others, keeps all other characters but for a capital at
the start of each segment, and is its own stem. -/
theorem isStemOf_pascalCase_sanitize (name : String) :
    IsStemOf (sanitize name) (pascalCase (sanitize name)) :=
  (isIdentifier_sanitize name).isStemOf_pascalCase

end Relata
