import Folio.Markdown.Block.Shape

/-!
# Code and raw markup

Blocks whose lines are taken as they are written. Their lines end with newlines only.
-/

namespace Folio.Markdown.Verbatim

/-- A line after so many spaces that stand for a part of a tab or for an indentation. -/
def line (spaces : Nat) (text : Text) : Text :=
  List.replicate spaces ' ' ++ dropReturn text

/-- The place after the containers of a line, if the line has the marks of all of them. -/
def enter? (containers : List Container) (text : Text) : Option Cursor :=
  let (count, place) := Container.enter (.ofLine text) containers
  if count = containers.length then some place else none

/-- What follows a line of which nothing but blanks is left. -/
def dropBlankRest (text : Text) : Text :=
  (blankLine? text).getD text

/-- The lines of fenced code, at most `fuel`, and what follows the code. -/
def fencedLines (containers : List Container) (fence : Shape.Fence) (indent : Nat) :
    (fuel : Nat) → Text → List Text × Text
  | 0, text => ([], text)
  | fuel + 1, text =>
    match enter? containers text with
    | none => ([], text)
    | some place =>
      let start := place.skipColumns indent
      let inner := start.skipColumns (4 - indent)
      match if start.indent < 4 - indent then fence.closed? inner.rest else none with
      | some rest => ([], dropBlankRest rest)
      | none =>
        let (content, next) := cutAtNewline start.rest
        let (more, rest) := fencedLines containers fence indent fuel next
        (line start.pending content :: more, rest)

/-- Reads the rest of fenced code after the fence that starts it. -/
def fenced (containers : List Container) (fence : Shape.Fence) (indent : Nat) (text : Text) :
    Block Prose × Text :=
  let (info, next) := cutAtNewline (text.dropWhile isLineBlank)
  let info := unescape false (Text.dropRightWhile isAsciiBlank info)
  let (lines, rest) := fencedLines containers fence indent (next.length + 1) next
  (.code (some info) lines.flatten, rest)

/-- The lines of indented code, at most `fuel`, each with whether it is blank, and what follows
the code. -/
def indentedLines (containers : List Container) :
    (fuel : Nat) → (isBlank : Bool) → Cursor → List (Text × Bool) × Text
  | 0, _, place => ([], place.rest)
  | fuel + 1, isBlank, place =>
    let (content, next) := cutAtNewline place.rest
    let first := (line place.pending content, isBlank)
    match enter? containers next with
    | none => ([first], next)
    | some place =>
      let start := place.skipColumns 4
      if (place.indent < 4 && !start.isAtEnd) || start.rest.isEmpty then ([first], next)
      else
        let (more, rest) := indentedLines containers fuel start.blankLine?.isSome start
        (first :: more, rest)

/-- Reads indented code from a place after its indentation, and tells whether there are blank
lines at its end, which are not part of it. -/
def indented (containers : List Container) (place : Cursor) : Block Prose × Bool × Text :=
  let (lines, rest) := indentedLines containers (place.rest.length + 1) false place
  let kept := (lines.reverse.dropWhile Prod.snd).reverse
  (.code none (kept.flatMap Prod.fst), kept.length < lines.length, rest)

/-- The lines of raw markup up to one that has a mark, at most `fuel`, and what follows. -/
def markedLines (containers : List Container) (mark : Text) :
    (fuel spaces : Nat) → Text → List Text × Text
  | 0, _, text => ([], text)
  | fuel + 1, spaces, text =>
    let (content, next) := cutAtNewline text
    let first := line spaces content
    match enter? containers next with
    | none => ([first], next)
    | some place =>
      if Text.hasPart mark content || place.rest.isEmpty then ([first], next)
      else
        let (more, rest) := markedLines containers mark fuel place.pending place.rest
        (first :: more, rest)

/-- The lines of raw markup up to a blank one, at most `fuel`, and what follows. -/
def unmarkedLines (containers : List Container) : (fuel spaces : Nat) → Text → List Text × Text
  | 0, _, text => ([], text)
  | fuel + 1, spaces, text =>
    let (content, next) := cutAtNewline text
    let first := line spaces content
    match enter? containers next with
    | none => ([first], next)
    | some place =>
      if place.isAtEnd || place.blankLine?.isSome then ([first], next)
      else
        let (more, rest) := unmarkedLines containers fuel place.pending place.rest
        (first :: more, rest)

/-- Reads a block of raw markup, if there is one. The text starts after `indent` columns of
blanks, of which `spaces` are the rest of a tab. -/
def raw? (containers : List Container) (spaces indent : Nat) (text : Text) :
    Option (Block Prose × Text) :=
  let before := max spaces indent
  match Shape.rawMark? text with
  | some mark =>
    let (lines, rest) := markedLines containers mark text.length before text
    some (.raw lines.flatten, rest)
  | none =>
    if Shape.startsBlockTag text || Shape.isLoneTag text then
      let (lines, rest) := unmarkedLines containers text.length before text
      some (.raw lines.flatten, rest)
    else none

end Folio.Markdown.Verbatim
