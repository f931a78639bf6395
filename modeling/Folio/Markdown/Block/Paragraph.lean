import Folio.Markdown.Block.Table

/-!
# Paragraphs

A paragraph goes on over all lines that start no block of their own, also over lines that do not
have the marks of the containers around it. A line of equal signs or hyphens after it makes it a
heading.
-/

namespace Folio.Markdown.Paragraph

/-- Whether a line starts a block that ends the paragraph before it. -/
def isEndedBy (containers : List Container) (inside : Bool) (text : Text) : Bool :=
  Shape.startsBlock inside false text || Table.interrupts containers text

/-- The lines of a paragraph, at most `fuel` more than one, from the content of a line on; the
level of the heading that it turns out to be; and what follows it. -/
def lines (containers : List Container) :
    (fuel : Nat) → (margin : Text) → Text → List ProseLine × Option Nat × Text
  | 0, margin, text =>
    let (content, ending, rest) := cutLine text
    ([⟨margin, content, ending⟩], none, rest)
  | fuel + 1, margin, text =>
    let (content, ending, next) := cutLine text
    let line : ProseLine := ⟨margin, content, ending⟩
    let (count, place) := Container.enter (.ofLine next) containers
    let inside := count == containers.length
    let start := place.skipIndent.rest
    let isShallow := place.indent < 4
    match if isShallow && inside then Shape.underline? start else none with
    | some (level, rest) => ([line], some level, rest)
    | none =>
      let start := place.skipBlanks
      if start.isAtEnd || (isShallow && isEndedBy containers inside place.skipIndent.rest) then
        ([line], none, next)
      else
        let (lines, level, rest) := lines containers fuel (start.margin next) start.rest
        (line :: lines, level, rest)

/-- Reads a paragraph, a heading with an underline or a table. The text starts with the content
of its first line, and `previous` is the character before it. -/
def read (containers : List Container) (checkbox : Option Bool) (previous : Option Char)
    (text : Text) : Block Prose × Text :=
  match Table.read? containers previous text with
  | some (table, rest) => (table, rest)
  | none =>
    let (lines, level, rest) := lines containers text.length [] text
    let content : Prose := ⟨previous, lines, false, containers, false⟩
    match level with
    | some level => (.heading level checkbox content, rest)
    | none => (.paragraph checkbox content, rest)

/-- Reads the rest of a heading after its number signs. -/
def headingRest (containers : List Container) (level : Nat) (text : Text) : Block Prose × Text :=
  let (line, ending, rest) := cutLine text
  let (blanks, inner) := Text.run isLineBlank line
  let content := Shape.headingText inner
  let lines : List ProseLine := [⟨[], content, inner.drop content.length ++ ending⟩]
  (.heading level none ⟨blanks.getLast? <|> some '#', lines, true, containers, false⟩, rest)

end Folio.Markdown.Paragraph
