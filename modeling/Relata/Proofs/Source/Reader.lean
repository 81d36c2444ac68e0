import Relata.Identifier
import Relata.Proofs.Source.Literal

/-!
# Names in lines of code

Which names a line of a generated module refers to. A reader goes through the line: outside
quotations it gathers words, inside it waits for the closing quote. Keywords and the values inside
functions start with small letters, and a word in front of a colon is the key of a property, so none
of these is a name. A line that starts with a slash is a comment.

## Main definitions

* `Reader`, `Reader.next` — where the reader stands, and its step.
* `namesFrom` — the names that it reads from there on.
* `references` — the names of a line.

## Main results

* `namesFrom_stringLiteral`, `namesFrom_stringList`, `namesFrom_templateText` — **literals hold no
  names, whatever their texts.**
-/

namespace Relata.Source

/-- Where a reader of a line stands: behind some characters of a word, or in a quotation, perhaps
behind a backslash. -/
inductive Reader
  | code (word : List Char)
  | quoted (quote : Char) (escaped : Bool)
  deriving DecidableEq, Repr, Inhabited

/-- The name that a word is: names start with no small letter and with no digit. -/
def nameOf (word : List Char) : List String :=
  match word with
  | [] => []
  | c :: _ => if c.isLower || c.isDigit then [] else [String.ofList word]

/-- The step of the reader over a character. -/
def Reader.next : Reader → Char → Reader
  | .code word, c =>
    if isIdentifierChar c then .code (word ++ [c])
    else if c = '"' || c = '\x60' then .quoted c false else .code []
  | .quoted quote true, _ => .quoted quote false
  | .quoted quote false, c =>
    if c = '\\' then .quoted quote true
    else if c = quote then .code [] else .quoted quote false

/-- The name that ends in front of a character. -/
def Reader.ended : Reader → Char → List String
  | .code word, c => if isIdentifierChar c || c = ':' then [] else nameOf word
  | .quoted _ _, _ => []

/-- The names that a reader reads. -/
def namesFrom : Reader → List Char → List String
  | .code word, [] => nameOf word
  | .quoted _ _, [] => []
  | r, c :: cs => r.ended c ++ namesFrom (r.next c) cs

/-- The names of a line. -/
def references (line : String) : List String :=
  if line.toList.head? = some '/' then [] else namesFrom (.code []) line.toList

/-- The names that a text refers to, line by line. -/
def referencesOf (source : String) : List String := (Text.linesOf source).flatMap references

theorem references_empty : references "" = [] := rfl

theorem mem_nameOf {word : List Char} {name : String} (h : name ∈ nameOf word) :
    name = String.ofList word := by
  unfold nameOf at h
  split at h
  · contradiction
  · split at h
    · contradiction
    · exact List.mem_singleton.mp h

theorem namesFrom_cons (r : Reader) (c : Char) (cs : List Char) :
    namesFrom r (c :: cs) = r.ended c ++ namesFrom (r.next c) cs := by
  cases r <;> rfl

/-! ### Words -/

/-- Characters of identifiers make a word longer. -/
theorem namesFrom_identifier {cs : List Char} (h : ∀ c ∈ cs, isIdentifierChar c = true)
    (word rest : List Char) :
    namesFrom (.code word) (cs ++ rest) = namesFrom (.code (word ++ cs)) rest := by
  induction cs generalizing word with
  | nil => rw [List.nil_append, List.append_nil]
  | cons c cs ih =>
    have hc : isIdentifierChar c = true := h c List.mem_cons_self
    have hcs : ∀ d ∈ cs, isIdentifierChar d = true := fun d hd => h d (List.mem_cons_of_mem c hd)
    rw [List.cons_append, namesFrom_cons]
    simp [Reader.ended, Reader.next, hc, ih hcs]

/-- A word reaches as far as the characters of identifiers do. -/
theorem namesFrom_word {cs : List Char} (h : ∀ c ∈ cs, isIdentifierChar c = true)
    (rest : List Char) :
    namesFrom (.code []) (cs ++ rest) =
      namesFrom (.code (cs ++ rest.takeWhile isIdentifierChar))
        (rest.dropWhile isIdentifierChar) := by
  have hword : ∀ c ∈ rest.takeWhile isIdentifierChar, isIdentifierChar c = true :=
    List.all_eq_true.mp List.all_takeWhile
  rw [namesFrom_identifier h, List.nil_append, ← namesFrom_identifier hword,
    List.takeWhile_append_dropWhile]

/-! ### String literals -/

theorem hexChar_ne (n : Nat) : Json.hexChar n ≠ '"' ∧ Json.hexChar n ≠ '\\' := by
  have h : ∀ k < 16, Nat.digitChar k ≠ '"' ∧ Nat.digitChar k ≠ '\\' := by decide
  exact h _ (Nat.mod_lt n (by decide))

/-- In a quotation, what is neither a backslash nor the quote is passed over. -/
theorem namesFrom_quoted {quote c : Char} (hslash : c ≠ '\\') (hquote : c ≠ quote)
    (rest : List Char) :
    namesFrom (.quoted quote false) (c :: rest) = namesFrom (.quoted quote false) rest := by
  simp [namesFrom_cons, Reader.ended, Reader.next, hslash, hquote]

theorem namesFrom_stringChar (c : Char) (rest : List Char) :
    namesFrom (.quoted '"' false) (Json.stringChar c ++ rest) =
      namesFrom (.quoted '"' false) rest := by
  have hchar := Json.charText_stringChar c
  generalize Json.stringChar c = cs at hchar ⊢
  cases hchar with
  | short _ => rfl
  | unit _ =>
    -- behind the backslash stand a letter, two zeros and two digits
    have hhigh := hexChar_ne (c.toNat / 16)
    have hlow := hexChar_ne c.toNat
    calc namesFrom (.quoted '"' false) ('\\' :: 'u' :: '0' :: '0' ::
          Json.hexChar (c.toNat / 16) :: Json.hexChar c.toNat :: rest)
        = namesFrom (.quoted '"' false)
            (Json.hexChar (c.toNat / 16) :: Json.hexChar c.toNat :: rest) := rfl
      _ = namesFrom (.quoted '"' false) (Json.hexChar c.toNat :: rest) :=
          namesFrom_quoted hhigh.2 hhigh.1 _
      _ = namesFrom (.quoted '"' false) rest := namesFrom_quoted hlow.2 hlow.1 _
  | plain hquote hslash _ => exact namesFrom_quoted hslash hquote rest

theorem namesFrom_flatMap {quote : Char} {f : Char → List Char}
    (h : ∀ c rest, namesFrom (.quoted quote false) (f c ++ rest) =
      namesFrom (.quoted quote false) rest) (s rest : List Char) :
    namesFrom (.quoted quote false) (s.flatMap f ++ rest) =
      namesFrom (.quoted quote false) rest := by
  induction s with
  | nil => rfl
  | cons c s ih => rw [List.flatMap_cons, List.append_assoc, h, ih]

/-- **A string literal holds no names.** -/
theorem namesFrom_stringLiteral (s : String) (rest : List Char) :
    namesFrom (.code []) ((stringLiteral s).toList ++ rest) = namesFrom (.code []) rest := by
  have htext : (stringLiteral s).toList ++ rest =
      '"' :: (s.toList.flatMap Json.stringChar ++ '"' :: rest) := by
    simp [Json.stringText]
  have hopening : ∀ cs, namesFrom (.code []) ('"' :: cs) = namesFrom (.quoted '"' false) cs :=
    fun _ => rfl
  rw [htext, hopening, namesFrom_flatMap namesFrom_stringChar]
  rfl

example : references "\"a Type\": DocRelation;" = ["DocRelation"] := by decide

theorem namesFrom_listTail (names : List String) (rest : List Char) :
    namesFrom (.code []) ((listTail names).toList ++ rest) = namesFrom (.code []) rest := by
  induction names with
  | nil => rfl
  | cons name names ih =>
    have hcomma : ∀ cs, namesFrom (.code []) (", ".toList ++ cs) = namesFrom (.code []) cs :=
      fun _ => rfl
    simp only [listTail, String.toList_append, List.append_assoc]
    rw [hcomma, namesFrom_stringLiteral, ih]

/-- **A list of string literals holds no names.** -/
theorem namesFrom_stringList (names : List String) (rest : List Char) :
    namesFrom (.code []) ((stringList names).toList ++ rest) = namesFrom (.code []) rest := by
  cases names with
  | nil =>
    rw [stringList_nil]
    rfl
  | cons name names =>
    have hbracket : ∀ cs, namesFrom (.code []) ("[".toList ++ cs) = namesFrom (.code []) cs :=
      fun _ => rfl
    simp only [stringList_cons, String.toList_append, List.append_assoc]
    rw [hbracket, namesFrom_stringLiteral, namesFrom_listTail]

/-! ### Template literals -/

theorem namesFrom_templateChar (c : Char) (rest : List Char) :
    namesFrom (.quoted '\x60' false) (templateChar c ++ rest) =
      namesFrom (.quoted '\x60' false) rest := by
  unfold templateChar
  split
  · rfl
  · next h =>
    simp only [Bool.or_eq_true, decide_eq_true_eq, not_or] at h
    exact namesFrom_quoted h.1.1 h.1.2 rest

/-- **The text of a template literal holds no names.** -/
theorem namesFrom_templateText (s : String) (rest : List Char) :
    namesFrom (.quoted '\x60' false) ((templateText s).toList ++ rest) =
      namesFrom (.quoted '\x60' false) rest := by
  rw [templateText, String.toList_ofList]
  exact namesFrom_flatMap namesFrom_templateChar s.toList rest

end Relata.Source
