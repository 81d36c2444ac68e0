/-!
# Lines and sizes

A line ends with a line feed or with a carriage return and a line feed. The last line needs no
end; a text that ends with a line end has no empty line behind it.

## Main definitions

* `lines` — the lines of a text, without their ends.
* `unlines` — lines written one after the other, each with a line feed.
* `byteSize` — how many bytes a text takes in UTF-8.
-/

namespace Relata.Text

/-- Puts a character at the start of the first line. -/
def pushFirst (c : Char) : List (List Char) → List (List Char)
  | [] => [[c]]
  | line :: rest => (c :: line) :: rest

/-- The lines of a text, without their ends. -/
def lines : List Char → List (List Char)
  | [] => []
  | '\n' :: rest => [] :: lines rest
  | '\r' :: '\n' :: rest => [] :: lines rest
  | c :: rest => pushFirst c (lines rest)

/-- The lines of a string. -/
def linesOf (s : String) : List String :=
  (lines s.toList).map String.ofList

/-- Each line followed by a line feed. -/
def unlines (ls : List String) : String :=
  ls.foldr (fun line rest => line ++ "\n" ++ rest) ""

@[simp] theorem unlines_nil : unlines [] = "" := rfl

@[simp] theorem unlines_cons (line : String) (ls : List String) :
    unlines (line :: ls) = line ++ "\n" ++ unlines ls := rfl

/-- The number of bytes of a text in UTF-8. -/
def byteSize : List Char → Nat
  | [] => 0
  | c :: rest => c.utf8Size + byteSize rest

@[simp] theorem byteSize_nil : byteSize [] = 0 := rfl

@[simp] theorem byteSize_cons (c : Char) (s : List Char) :
    byteSize (c :: s) = c.utf8Size + byteSize s := rfl

@[simp] theorem byteSize_append (s t : List Char) :
    byteSize (s ++ t) = byteSize s + byteSize t := by
  induction s with
  | nil => simp
  | cons c s ih => simp [ih, Nat.add_assoc]

end Relata.Text
