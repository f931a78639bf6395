import Folio.Markdown.Line

/-!
# Places in a line

The start of a line is measured in columns: a tab reaches to the next multiple of four. A place
in a line may therefore lie inside a tab, and columns of the tab are then still to be read.
-/

namespace Folio.Markdown

/-- A place in a line. -/
structure Cursor where
  /-- Columns of a tab that are still to be read. -/
  pending : Nat
  /-- The column at which `rest` starts. -/
  column : Nat
  /-- The number of characters of the line before `rest`. -/
  taken : Nat
  /-- The rest of the document. -/
  rest : Text
deriving DecidableEq, Repr

/-- The width of a tab at a column. -/
def tabWidth (column : Nat) : Nat :=
  4 - column % 4

/-- The columns of the spaces and tabs at the start of a text that starts at a column. -/
def indentWidth (column : Nat) : Text → Nat
  | ' ' :: text => 1 + indentWidth (column + 1) text
  | '\t' :: text => tabWidth column + indentWidth (column + tabWidth column) text
  | _ => 0

namespace Cursor

/-- The start of a line. -/
def ofLine (text : Text) : Cursor := ⟨0, 0, 0, text⟩

/-- The columns of blanks at a place. -/
def indent (cursor : Cursor) : Nat :=
  cursor.pending + indentWidth cursor.column cursor.rest

/-- Goes on by one column of blanks, if there is one. -/
def skipColumn (cursor : Cursor) : Cursor :=
  match cursor.pending, cursor.rest with
  | pending + 1, _ => { cursor with pending }
  | 0, ' ' :: text => ⟨0, cursor.column + 1, cursor.taken + 1, text⟩
  | 0, '\t' :: text =>
    ⟨tabWidth cursor.column - 1, cursor.column + tabWidth cursor.column, cursor.taken + 1, text⟩
  | 0, _ => cursor

/-- Goes on by at most `columns` columns of blanks. -/
def skipColumns : (columns : Nat) → Cursor → Cursor
  | 0, cursor => cursor
  | columns + 1, cursor => skipColumns columns cursor.skipColumn

/-- Goes on past all blanks. -/
def skipIndent (cursor : Cursor) : Cursor :=
  cursor.skipColumns cursor.indent

/-- Goes on past all blanks and gives up the rest of a tab. -/
def skipBlanks (cursor : Cursor) : Cursor :=
  let (blanks, rest) := Text.run isSpaceOrTab cursor.rest
  ⟨0, cursor.column + indentWidth cursor.column cursor.rest, cursor.taken + blanks.length, rest⟩

/-- Goes on by characters that are not blanks. Columns of a tab before them stay to be read. -/
def advance (cursor : Cursor) (count : Nat) : Cursor :=
  { cursor with
    column := cursor.column + count
    taken := cursor.taken + count
    rest := cursor.rest.drop count }

/-- Whether a place is at the end of its line. -/
def isAtEnd (cursor : Cursor) : Bool :=
  endsLine cursor.rest

/-- What follows the line, if only blanks are left of it. -/
def blankLine? (cursor : Cursor) : Option Text :=
  Markdown.blankLine? cursor.rest

/-- What the line had before the place; `line` is the document from the start of the line on. -/
def margin (cursor : Cursor) (line : Text) : Text :=
  line.take cursor.taken

end Cursor

end Folio.Markdown
