import Folio.Markdown.Block.Cursor

/-!
# Containers

Quotes and list items hold other blocks. Every line of what they hold starts with their marks: a
quote with an angle bracket, an item with its indentation. `Container.enter` goes past the marks
of the containers around a place, as far as a line has them.
-/

namespace Folio.Markdown

/-- What a block stands in. -/
inductive Container where
  | quote
  /-- A list item, in which lines are indented by its width. -/
  | item (width : Nat)
  /-- A list item that had no content when a blank line followed. It takes in blank lines only. -/
  | emptiedItem
deriving DecidableEq, Repr

namespace Container

/-- Goes past the mark of a container, if the line has it. -/
def enter? (cursor : Cursor) : Container → Option Cursor
  | .quote =>
    let start := cursor.skipColumns 3
    match start.rest with
    | '>' :: _ => some (start.advance 1).skipColumn
    | _ => none
  | .item width =>
    let start := cursor.skipColumns width
    if width ≤ cursor.indent || start.isAtEnd then some start else none
  | .emptiedItem =>
    let start := cursor.skipIndent
    if start.isAtEnd then some start else none

/-- Goes past the marks of as many containers as the line has, given outermost first, and tells
how many they are. -/
def enter (cursor : Cursor) : List Container → Nat × Cursor
  | [] => (0, cursor)
  | container :: rest =>
    match container.enter? cursor with
    | none => (0, cursor)
    | some next =>
      let (count, cursor) := enter next rest
      (count + 1, cursor)

@[simp]
theorem enter_nil (cursor : Cursor) : enter cursor [] = (0, cursor) :=
  rfl

/-- A line has the marks of no more containers than there are. -/
theorem enter_le (cursor : Cursor) (containers : List Container) :
    (enter cursor containers).1 ≤ containers.length := by
  induction containers generalizing cursor with
  | nil => simp
  | cons container containers inductionHypothesis =>
    cases found : container.enter? cursor with
    | none => simp [enter, found]
    | some next => simpa [enter, found] using inductionHypothesis next

/-- The number of characters that the marks of containers take at the start of a line. -/
def marginLength (containers : List Container) (line : Text) : Nat :=
  (enter (.ofLine line) containers).2.taken

end Container

end Folio.Markdown
