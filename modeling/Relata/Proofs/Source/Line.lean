import Relata.Proofs.Character
import Relata.Source.Line

/-!
# Lines read back

Lines that hold no line end are the lines of the text that they are written to, and a text that is
laid out again by its lines keeps them.

## Main definitions

* `IsOneLine` — a text without line ends.
* `ArePlain` — lines that are one line each when they are written.

## Main results

* `linesOf_unlines` — written lines are read back.
* `count_unlines`, `return_notMem_unlines` — the line ends of written lines.
* `text_relaid` — laying out a text again keeps its lines.
-/

namespace Relata.Source

/-! ### Texts of one line -/

/-- A text without line feeds and carriage returns. -/
def IsOneLine (s : String) : Prop := ∀ c ∈ s.toList, c ≠ '\n' ∧ c ≠ '\r'

/-- A text given by its characters. String literals are such texts, and their characters are easier
to look through than the bytes of the string. -/
theorem isOneLine_ofList {cs : List Char} (h : (cs.all fun c => c ≠ '\n' && c ≠ '\r') = true) :
    IsOneLine (String.ofList cs) := by
  intro c hc
  rw [String.toList_ofList] at hc
  simpa using List.all_eq_true.mp h c hc

@[simp] theorem isOneLine_append {s t : String} :
    IsOneLine (s ++ t) ↔ IsOneLine s ∧ IsOneLine t := by
  simp only [IsOneLine, String.toList_append, List.mem_append]
  grind

theorem lines_append {s : List Char} (h : ∀ c ∈ s, c ≠ '\n' ∧ c ≠ '\r') (rest : List Char) :
    Text.lines (s ++ '\n' :: rest) = s :: Text.lines rest := by
  induction s with
  | nil => rfl
  | cons c s ih =>
    obtain ⟨hfeed, hreturn⟩ := h c List.mem_cons_self
    have hs : Text.lines (s ++ '\n' :: rest) = s :: Text.lines rest :=
      ih fun d hd => h d (List.mem_cons_of_mem c hd)
    rw [List.cons_append, Text.lines, hs, Text.pushFirst]
    · exact hfeed
    · exact fun _ hc => absurd hc hreturn

/-- Written lines are read back. -/
theorem linesOf_unlines {ls : List String} (h : ∀ l ∈ ls, IsOneLine l) :
    Text.linesOf (Text.unlines ls) = ls := by
  induction ls with
  | nil => rfl
  | cons l ls ih =>
    have hls : Text.linesOf (Text.unlines ls) = ls :=
      ih fun l' hl' => h l' (List.mem_cons_of_mem l hl')
    have htoList : (Text.unlines (l :: ls)).toList =
        l.toList ++ '\n' :: (Text.unlines ls).toList := by
      simp
    rw [Text.linesOf, htoList, lines_append (h l List.mem_cons_self), List.map_cons,
      String.ofList_toList, ← Text.linesOf, hls]

theorem unlines_append (ls ls' : List String) :
    Text.unlines (ls ++ ls') = Text.unlines ls ++ Text.unlines ls' := by
  induction ls with
  | nil => rw [List.nil_append, Text.unlines_nil, String.empty_append]
  | cons l ls ih => simp only [List.cons_append, Text.unlines_cons, ih, String.append_assoc]

/-- Written lines have a line feed each. -/
theorem count_unlines {ls : List String} (h : ∀ l ∈ ls, IsOneLine l) :
    (Text.unlines ls).toList.count '\n' = ls.length := by
  induction ls with
  | nil => rfl
  | cons l ls ih =>
    rw [List.forall_mem_cons] at h
    have hnone : l.toList.count '\n' = 0 := List.count_eq_zero.mpr fun hmem => (h.1 _ hmem).1 rfl
    have hfeed : "\n".toList.count '\n' = 1 := rfl
    rw [Text.unlines_cons, String.toList_append, String.toList_append, List.count_append,
      List.count_append, hnone, hfeed, ih h.2, List.length_cons]
    omega

/-- Written lines have no carriage returns. -/
theorem return_notMem_unlines {ls : List String} (h : ∀ l ∈ ls, IsOneLine l) :
    '\r' ∉ (Text.unlines ls).toList := by
  induction ls with
  | nil => exact List.not_mem_nil
  | cons l ls ih =>
    rw [List.forall_mem_cons] at h
    have hfeed : '\r' ∉ "\n".toList := by decide
    rw [Text.unlines_cons, String.toList_append, String.toList_append, List.mem_append,
      List.mem_append]
    rintro ((hmem | hmem) | hmem)
    · exact (h.1 _ hmem).2 rfl
    · exact hfeed hmem
    · exact ih h.2 hmem

/-! ### Lines -/

namespace Line

@[simp] theorem text_flush (s : String) : (flush s).text = s := by
  by_cases h : s = "" <;> simp [flush, text, h]

@[simp] theorem text_blank : blank.text = "" := rfl

@[simp] theorem content_flush (s : String) : (flush s).content = s := rfl

@[simp] theorem content_blank : blank.content = "" := rfl

@[simp] theorem content_deeper (l : Line) : l.deeper.content = l.content := rfl

/-- A line is its content behind its indentation, unless it is empty. -/
theorem toList_text {l : Line} (h : l.content ≠ "") :
    l.text.toList = List.replicate (2 * l.depth) ' ' ++ l.content.toList := by
  rw [text, if_neg h, String.toList_append, String.toList_ofList]

/-- A line further in starts with two more blanks, unless it is empty. -/
theorem text_deeper {l : Line} (h : l.content ≠ "") : l.deeper.text = "  " ++ l.text := by
  have hcontent : l.deeper.content ≠ "" := h
  rw [text, if_neg hcontent, text, if_neg h, ← String.append_assoc]
  congr 1
  apply String.toList_inj.mp
  simp only [String.toList_append, String.toList_ofList]
  rfl

theorem head?_text_deeper {l : Line} (h : l.content ≠ "") :
    l.deeper.text.toList.head? = some ' ' := by
  rw [text_deeper h, String.toList_append]
  rfl

@[simp] theorem isOneLine_text {l : Line} : IsOneLine l.text ↔ IsOneLine l.content := by
  unfold text
  split
  · next h => rw [h]
  · simp only [isOneLine_append, and_iff_right_iff_imp]
    intro _ c hc
    rw [String.toList_ofList] at hc
    rw [List.eq_of_mem_replicate hc]
    decide

end Line

/-! ### Lists of lines -/

/-- What holds of the contents of a block. -/
theorem forall_mem_block {P : String → Prop} {opening closing : String} {body : List Line} :
    (∀ l ∈ block opening body closing, P l.content) ↔
      P opening ∧ (∀ l ∈ body, P l.content) ∧ P closing := by
  simp only [block, List.cons_append, List.forall_mem_cons, List.forall_mem_append,
    List.forall_mem_map, Line.content_flush, Line.content_deeper, List.not_mem_nil, false_implies,
    implies_true, and_true]

/-- Each of the lines is one line when it is written. -/
def ArePlain (ls : List Line) : Prop := ∀ l ∈ ls, IsOneLine l.content

section ArePlain

variable {α : Type} {l : Line} {ls ls' : List Line} {f : α → Line} {g : α → List Line} {as : List α}

@[simp] theorem arePlain_nil : ArePlain [] := by simp [ArePlain]

@[simp] theorem arePlain_cons : ArePlain (l :: ls) ↔ IsOneLine l.content ∧ ArePlain ls := by
  simp [ArePlain]

@[simp] theorem arePlain_append : ArePlain (ls ++ ls') ↔ ArePlain ls ∧ ArePlain ls' := by
  simp only [ArePlain, List.mem_append]
  grind

@[simp] theorem arePlain_map : ArePlain (as.map f) ↔ ∀ a ∈ as, IsOneLine (f a).content := by
  simp [ArePlain]

@[simp] theorem arePlain_flatMap : ArePlain (as.flatMap g) ↔ ∀ a ∈ as, ArePlain (g a) := by
  simp only [ArePlain, List.mem_flatMap]
  grind

@[simp] theorem arePlain_block {opening closing : String} :
    ArePlain (block opening ls closing) ↔
      IsOneLine opening ∧ ArePlain ls ∧ IsOneLine closing :=
  forall_mem_block

end ArePlain

theorem isOneLine_of_mem_text {ls : List Line} (h : ArePlain ls) :
    ∀ line ∈ ls.map Line.text, IsOneLine line :=
  List.forall_mem_map.mpr fun l hl => Line.isOneLine_text.mpr (h l hl)

/-- Rendered lines are read back. -/
theorem linesOf_render {ls : List Line} (h : ArePlain ls) :
    Text.linesOf (render ls) = ls.map Line.text :=
  linesOf_unlines (isOneLine_of_mem_text h)

theorem arePlain_relaid {ls : List Line} (h : ArePlain ls) : ArePlain (relaid (render ls)) := by
  rw [relaid, linesOf_render h]
  simpa [ArePlain] using h

/-- Laying out a text again keeps its lines. -/
theorem text_relaid {ls : List Line} (h : ArePlain ls) :
    (relaid (render ls)).map Line.text = ls.map Line.text := by
  rw [relaid, linesOf_render h]
  simp [Function.comp_def]

end Relata.Source
