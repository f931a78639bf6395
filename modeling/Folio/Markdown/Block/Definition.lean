import Folio.Markdown.Block.Paragraph
import Folio.Markdown.Target

/-!
# Link definitions

A definition gives a label a target: the label in brackets, a colon, an address and perhaps a
title. It may go on over several lines, as long as no line starts a block of its own.
-/

namespace Folio.Markdown.LinkDefinition

/-- Enters the containers of a line inside a definition, and tells whether the line has the marks
of all of them. -/
def enter (containers : List Container) (line : Text) : Bool × Cursor :=
  let (count, place) := Container.enter (.ofLine line) containers
  (count == containers.length, place)

/-- The margin of a line inside a label. -/
def labelMargin (containers : List Container) : Margin := fun line =>
  let (inside, place) := enter containers line
  let start := place.skipColumns 4
  if 4 ≤ place.indent then some start.taken
  else if Paragraph.isEndedBy containers inside start.rest ||
      (inside && (Shape.underline? start.rest).isSome) then
    none
  else some start.taken

/-- The margin of a line between the parts of a definition. -/
def partMargin (containers : List Container) : Margin := fun line =>
  let (inside, place) := enter containers line
  let start := place.skipColumns 4
  if place.indent < 4 && (Paragraph.isEndedBy containers inside start.rest ||
      (Shape.underline? start.rest).isSome) then
    none
  else some start.taken

/-- The margin of a line inside a title. -/
def titleMargin (containers : List Container) : Margin := fun line =>
  let (inside, place) := enter containers line
  if Paragraph.isEndedBy containers inside place.rest || (Shape.underline? place.rest).isSome then
    none
  else some place.taken

/-- Passes over blanks with at most one line ending among them, and tells whether there is
one. -/
def space? (containers : List Container) (text : Text) : Option (Bool × Text) := do
  let text := text.dropWhile isLineBlank
  if endsLine text then
    let (_, text) ← cross? (partMargin containers) text
    let text := text.dropWhile isLineBlank
    if endsLine text then none else some (true, text)
  else some (false, text)

/-- The rest of a title up to the sign that closes it. -/
def titleRest? (containers : List Container) (closing : Char) :
    (fuel : Nat) → Text → Option (Text × Text)
  | 0, _ => none
  | fuel + 1, text =>
    match text with
    | [] => none
    | c :: rest =>
      if c = closing then some ([], rest)
      else if endsLine text then do
        let (ending, rest) ← cross? (titleMargin containers) text
        let rest := rest.dropWhile isLineBlank
        if endsLine rest then none
        else
          let (title, after) ← titleRest? containers closing fuel rest
          some (ending ++ title, after)
      else
        match c, rest with
        | '\\', d :: next =>
          if endsLine rest then
            (titleRest? containers closing fuel rest).map fun (title, after) => (c :: title, after)
          else
            (titleRest? containers closing fuel next).map fun (title, after) =>
              (c :: d :: title, after)
        | _, _ =>
          (titleRest? containers closing fuel rest).map fun (title, after) => (c :: title, after)

/-- A title between quotation marks or parentheses. -/
def title? (containers : List Container) : Text → Option (Text × Text)
  | '"' :: text => titleRest? containers '"' (text.length + 1) text
  | '\'' :: text => titleRest? containers '\'' (text.length + 1) text
  | '(' :: text => titleRest? containers ')' (text.length + 1) text
  | _ => none

/-- What follows a definition after the address: a title that ends its line, and what follows.
A title on a line of its own that is not in order is not part of the definition. -/
def end? (containers : List Container) (text : Text) : Option (Text × Text) :=
  match space? containers text with
  | none => some ([], text)
  | some (broken, start) =>
    if !broken && start.length == text.length then none
    else
      match title? containers start with
      | none => if broken then some ([], text) else none
      | some (title, after) =>
        if (blankLine? after).isSome then some (unescape false title, after)
        else if broken then some ([], text)
        else none

/-- Reads a definition: the label, the target, and what follows. -/
def read? (containers : List Container) : Text → Option (Text × Target × Text)
  | '[' :: text => do
    let (label, text) ← Label.read? false (labelMargin containers) text
    let text ← Text.dropLead? [':'] text
    let (_, text) ← space? containers text
    let (address, after) ← Target.address? 1 text
    if after.length = text.length then none
    else
      let (title, rest) ← end? containers after
      some (label, ⟨unescape false address, title⟩, (blankLine? rest).getD rest)
  | _ => none

end Folio.Markdown.LinkDefinition
