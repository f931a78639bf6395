import Folio.Markdown.Block.Container

/-!
# Running text in its place

Running text is kept with everything that stands around it in the document. What a sign means
depends on its neighbours, some raw markup is taken with all that stands between its lines, and
what goes on over several lines has to pass over the marks of the containers around it.
-/

namespace Folio.Markdown

/-- A line of running text. -/
structure ProseLine where
  /-- The marks of containers and the blanks before the content. -/
  margin : Text
  content : Text
  /-- What ends the line. -/
  ending : Text
deriving DecidableEq, Repr

/-- A stretch of running text: the text of a paragraph, a heading or a table cell. -/
structure Prose where
  /-- The character before the text. -/
  previous : Option Char
  lines : List ProseLine
  /-- Whether blanks at the end of the text are shown with what they follow. -/
  keepsBlanks : Bool
  containers : List Container
  /-- Whether the text is a table cell. -/
  inTable : Bool
deriving DecidableEq, Repr

namespace Prose

/-- No text. -/
def empty : Prose := ⟨none, [], false, [], false⟩

/-- The text as it stands in the document. -/
def source (prose : Prose) : Text :=
  prose.lines.flatMap fun line => line.margin ++ line.content ++ line.ending

@[simp]
theorem source_empty : empty.source = [] :=
  rfl

/-- The number of characters that the marks of containers take at the start of a line. -/
def marginLength (prose : Prose) (line : Text) : Nat :=
  Container.marginLength prose.containers line

/-- The marks of containers, which any line of the text may have. -/
def margin (prose : Prose) : Margin := fun line =>
  some (prose.marginLength line)

end Prose

end Folio.Markdown
