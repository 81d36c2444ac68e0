import Relata.Text.Lines

/-!
# Lines of the generated module

The module is put together from lines, each with its depth of indentation.

## Main definitions

* `Line` — a line; `Line.text` is what is written.
* `block` — lines between an opening and a closing one.
* `render` — lines as a text.
* `relaid` — a text as unindented lines.
-/

namespace Relata.Source

/-- A line and how far it is indented. -/
structure Line where
  depth : Nat
  content : String
  deriving DecidableEq, Repr, Inhabited

namespace Line

/-- A line that is not indented. -/
def flush (content : String) : Line := ⟨0, content⟩

/-- An empty line. -/
def blank : Line := ⟨0, ""⟩

/-- The line one level further in. -/
def deeper (l : Line) : Line := ⟨l.depth + 1, l.content⟩

/-- What is written: two blanks for each level before the content, and nothing if it is empty. -/
def text (l : Line) : String :=
  if l.content = "" then "" else String.ofList (List.replicate (2 * l.depth) ' ') ++ l.content

end Line

/-- Lines between an opening and a closing one, one level further in. -/
def block (opening : String) (body : List Line) (closing : String) : List Line :=
  .flush opening :: body.map Line.deeper ++ [.flush closing]

/-- Lines as a text, each with its end. -/
def render (ls : List Line) : String := Text.unlines (ls.map Line.text)

/-- A text as lines of its own: a line end inside a content ends a line. -/
def relaid (text : String) : List Line := (Text.linesOf text).map Line.flush

end Relata.Source
