import Folio.Markdown.Block.Shape

/-!
# Tables

A table starts with a line of cells and a line of hyphens that has as many columns. Every line
after them that starts no other block is a row. Cells stand between bars; a bar with a backslash
before it belongs to a cell.
-/

namespace Folio.Markdown.Table

/-- What the bars of the first line of a table show. -/
structure Bars where
  count : Nat
  /-- Whether anything but blanks follows the last bar. -/
  goesOn : Bool
deriving DecidableEq, Repr

/-- The bars in the content of a line that do not have a backslash before them; `previous` is
the character before the text. -/
def barsFrom (previous : Char) : Text → Bars
  | [] => ⟨0, false⟩
  | c :: text =>
    let rest := barsFrom c text
    if c = '|' ∧ previous ≠ '\\' then
      ⟨rest.count + 1, if rest.count = 0 then !text.all isLineBlank else rest.goesOn⟩
    else rest

/-- The number of columns that the content of a first line has, if it has a bar. -/
def headColumns? (line : Text) : Option Nat :=
  let bars := barsFrom ' ' line
  if bars.count = 0 then none
  else
    let bounded := (line.dropWhile isLineBlank).head? = some '|'
    some (bars.count - (if bounded then 1 else 0) + (if bars.goesOn then 1 else 0))

/-- A column of the second line of a table, as far as it has been read. -/
structure Column where
  alignment : Alignment
  /-- Whether nothing has been read. -/
  isFresh : Bool
  hasHyphen : Bool
deriving DecidableEq, Repr

/-- The start of a column. -/
def Column.start : Column := ⟨.unset, true, false⟩

/-- Reads a sign of a column: a colon at the start aligns left, a later one right, and both
center. -/
def Column.read? (column : Column) (c : Char) : Option Column :=
  if c = ' ' then some column
  else if c = '-' then some { column with isFresh := false, hasHyphen := true }
  else if c = ':' then
    let alignment : Alignment :=
      match column.isFresh, column.alignment with
      | true, .unset => .left
      | false, .left => .center
      | false, .unset => .right
      | _, alignment => alignment
    some { column with alignment, isFresh := false }
  else none

/-- The columns of the rest of a second line. Every column that a bar ends has a hyphen. -/
def columns? (column : Column) : Text → Option (List Column)
  | [] => some (if column.isFresh then [] else [column])
  | c :: text =>
    if c = '|' then
      if column.hasHyphen then (columns? .start text).map (column :: ·) else none
    else do
      let column ← column.read? c
      columns? column text

/-- The alignments that the content of a second line gives. -/
def alignments? (line : Text) : Option (List Alignment) :=
  if line.contains '|' && line.contains '-' then
    (columns? .start ((Text.dropLead? ['|'] line).getD line)).map
      (·.map Column.alignment)
  else none

/-- The alignments of a table that starts with the line at the start of a text, and what follows
its second line. -/
def start? (containers : List Container) (text : Text) : Option (List Alignment × Text) := do
  let (line, ending, next) := cutLine text
  let columns ← headColumns? line
  if ending.isEmpty then none
  else
    let (count, place) := Container.enter (.ofLine next) containers
    if count = containers.length ∧ place.indent < 4 then
      let (second, _, rest) := cutLine place.skipIndent.rest
      let alignments ← alignments? second
      if alignments.length = columns then some (alignments, rest) else none
    else none

/-- Whether a line inside all containers of a paragraph starts a table that ends it. -/
def interrupts (containers : List Container) (text : Text) : Bool :=
  text.head? == some '|' && (start? containers text).isSome

/-- The text up to a bar that does not have a backslash before it, and what is left from the bar
on; `previous` is the character before the text. -/
def cutCell (previous : Option Char) : Text → Text × Text
  | [] => ([], [])
  | c :: text =>
    if c = '|' ∧ previous ≠ some '\\' then ([], c :: text)
    else
      let (cell, rest) := cutCell (some c) text
      (c :: cell, rest)

/-- The cells of the content of a line, at most `fuel`; `previous` is the character before it. -/
def cells (containers : List Container) :
    (fuel : Nat) → (previous : Option Char) → Text → List Prose
  | 0, _, _ => []
  | fuel + 1, previous, text =>
    let inner := (Text.dropLead? ['|'] text).getD text
    let previous := if inner.length < text.length then some '|' else previous
    let (blanks, inner) := Text.run isLineBlank inner
    let previous := blanks.getLast? <|> previous
    if inner.isEmpty then []
    else
      let (content, rest) := cutCell previous inner
      ⟨previous, [⟨[], content, rest.take 1⟩], false, containers, true⟩ ::
        cells containers fuel (content.getLast? <|> previous) rest

/-- The cells of the line at the start of a text, and what follows the line. -/
def row (containers : List Container) (previous : Option Char) (text : Text) :
    List Prose × Text :=
  let (line, _, rest) := cutLine text
  (cells containers (line.length + 1) previous line, rest)

/-- As many cells as a table has columns. -/
def fill (columns : Nat) (cells : List Prose) : List Prose :=
  (cells ++ List.replicate (columns - cells.length) Prose.empty).take columns

/-- The rows of a table, at most `fuel`, and what follows them. -/
def rows (containers : List Container) (columns : Nat) :
    (fuel : Nat) → Text → List (List Prose) × Text
  | 0, text => ([], text)
  | fuel + 1, text =>
    let (count, place) := Container.enter (.ofLine text) containers
    let start := place.skipBlanks
    if count ≠ containers.length ∨ Shape.startsBlock true true start.rest then ([], text)
    else
      let previous := (start.margin text).getLast? <|> some '\n'
      match row containers previous start.rest with
      | ([], _) => ([], text)
      | (cells, rest) =>
        let (more, rest) := rows containers columns fuel rest
        (fill columns cells :: more, rest)

/-- Reads a table; `previous` is the character before it. -/
def read? (containers : List Container) (previous : Option Char) (text : Text) :
    Option (Block Prose × Text) :=
  let line := (cutLine text).1
  if (Text.run (· == '\\') line.reverse).1.length % 2 = 1 then none
  else do
    let (alignments, rest) ← start? containers text
    let head := fill alignments.length (row containers previous text).1
    let (rows, rest) := rows containers alignments.length rest.length rest
    some (.table alignments head rows, rest)

end Folio.Markdown.Table
