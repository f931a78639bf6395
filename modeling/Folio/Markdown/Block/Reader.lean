import Folio.Markdown.Block.Definition
import Folio.Markdown.Block.Verbatim

/-!
# Reading blocks

A document is read block by block. The blocks that are open around a place are quotes, lists and
list items, one inside the other. The line at the place first shows how many of them it
continues; the others are finished. Then it may open new ones, and at last a block of text is
read, together with all lines that belong to it.
-/

namespace Folio.Markdown

/-- An open block that holds other blocks. What it holds already comes latest first. -/
inductive Frame where
  | quote (blocks : List (Block Prose))
  | list (mark : ListMark) (loose : Bool) (items : List (List (Block Prose)))
  | item (container : Container) (blocks : List (Block Prose))
deriving Repr

/-- The container that an open block is; a list is none. -/
def Frame.container? : Frame → Option Container
  | .quote _ => some .quote
  | .list _ _ _ => none
  | .item container _ => some container

/-- What has been read of a document. -/
structure BlockState where
  /-- Finished blocks outside all open ones, latest first. -/
  blocks : List (Block Prose)
  /-- The open blocks, innermost first. -/
  frames : List Frame
  /-- Whether a blank line has been read after the latest block. -/
  afterBlank : Bool
  /-- Whether the latest line started a list item and had nothing else in it but a checkbox. -/
  inNewItem : Bool
  /-- The character before the line that is read next. -/
  previous : Option Char
  definitions : Definitions

namespace BlockState

/-- Nothing has been read. -/
def initial : BlockState := ⟨[], [], false, false, none, []⟩

/-- The containers around the place, outermost first. -/
def containers (state : BlockState) : List Container :=
  state.frames.reverse.filterMap Frame.container?

/-- Adds a finished block at the innermost place. -/
def addBlock (block : Block Prose) (state : BlockState) : BlockState :=
  match state.frames with
  | [] => { state with blocks := block :: state.blocks }
  | .quote blocks :: rest => { state with frames := .quote (block :: blocks) :: rest }
  | .item container blocks :: rest =>
    { state with frames := .item container (block :: blocks) :: rest }
  | .list _ _ _ :: _ => state

/-- Records a link definition; a label that is defined already keeps its target. -/
def define (label : Text) (target : Target) (state : BlockState) : BlockState :=
  { state with definitions := state.definitions ++ [(normalLabel label, target)] }

/-- Opens a block that holds others. -/
def openFrame (frame : Frame) (state : BlockState) : BlockState :=
  { state with frames := frame :: state.frames }

/-- Finishes the innermost open block. -/
def closeFrame (state : BlockState) : BlockState :=
  match state.frames with
  | [] => state
  | .quote blocks :: rest => { state with frames := rest }.addBlock (.quote blocks.reverse)
  | .list mark loose items :: rest =>
    { state with frames := rest, inNewItem := state.inNewItem && loose }.addBlock
      (.list mark loose items.reverse)
  | .item _ blocks :: .list mark loose items :: rest =>
    { state with frames := .list mark loose (blocks.reverse :: items) :: rest }
  | .item _ _ :: rest => { state with frames := rest }

/-- Finishes the `count` innermost open blocks. -/
def closeFrames : (count : Nat) → BlockState → BlockState
  | 0, state => state
  | count + 1, state => closeFrames count state.closeFrame

/-- How many open blocks, given outermost first, are left if so many containers are: a list stays
open after its last item is finished. -/
def keptFrames : (containers : Nat) → List Frame → Nat
  | _, [] => 0
  | containers, .list _ _ _ :: rest => keptFrames containers rest + 1
  | 0, _ => 0
  | containers + 1, _ :: rest => keptFrames containers rest + 1

/-- Finishes the open blocks inside the so many outermost containers. -/
def closeTo (containers : Nat) (state : BlockState) : BlockState :=
  state.closeFrames (state.frames.length - keptFrames containers state.frames.reverse)

/-- Finishes the innermost item if a blank line has followed its mark. -/
def finishNewItem (state : BlockState) : BlockState :=
  let state :=
    match state.inNewItem && state.afterBlank, state.frames with
    | true, .item _ _ :: _ => state.closeFrame
    | _, _ => state
  { state with inNewItem := false }

/-- Marks the list of the innermost item as loose. -/
def loosen (state : BlockState) : BlockState :=
  match state.frames with
  | frame :: .list mark _ items :: rest =>
    { state with frames := frame :: .list mark true items :: rest }
  | _ => state

/-- Makes ready for a block that is not a list item: an open list at the innermost place ends,
and after a blank line the list of the item that the block comes into is loose. -/
def finishList (state : BlockState) : BlockState :=
  let state := state.finishNewItem
  let state :=
    match state.frames with
    | .list _ _ _ :: _ => state.closeFrame
    | _ => state
  if state.afterBlank then { state.loosen with afterBlank := false } else state

/-- Makes ready for a list item: the open list goes on if it has the same sort of marks, or
another one starts. -/
def continueList (mark : ListMark) (state : BlockState) : BlockState :=
  let state := state.finishNewItem
  let begun (state : BlockState) : BlockState :=
    { state.openFrame (.list mark false []) with afterBlank := false }
  match state.frames with
  | .list other loose items :: rest =>
    if other.sameList mark then
      { state with
        frames := .list other (loose || state.afterBlank) items :: rest
        afterBlank := false }
    else begun state.finishList
  | [] => begun state
  | _ => begun state.finishList

/-- Notes a blank line. In a quote such a line shows the mark of the quote and is blank inside it
alone. An item that has nothing in it yet takes in no more than blank lines from now on. -/
def noteBlank (state : BlockState) : BlockState :=
  match state.frames with
  | .quote _ :: _ => state
  | .item container blocks :: rest =>
    { state with
      frames := .item (if state.inNewItem then .emptiedItem else container) blocks :: rest
      afterBlank := true }
  | _ => { state with afterBlank := true }

/-- Adds a block that has been read together with what follows it. -/
def addRead (read : Block Prose × Text) (state : BlockState) : BlockState × Text :=
  (state.addBlock read.1, read.2)

/-- Reads a block of text at a place in a line that is not blank; `before` is the character
before the line, and `text` the document from its start on. -/
def readText (before : Option Char) (text : Text) (cursor : Cursor) (state : BlockState) :
    BlockState × Text :=
  let finished := state.finishList
  let containers := finished.containers
  let start := cursor.skipIndent
  if 4 ≤ cursor.indent then
    let (code, blankEnd, rest) := Verbatim.indented containers (cursor.skipColumns 4)
    ({ finished.addBlock code with afterBlank := blankEnd }, rest)
  else
    match Verbatim.raw? containers cursor.pending cursor.indent start.rest with
    | some read => finished.addRead read
    | none =>
      match Shape.rule? start.rest with
      | some rest => (finished.addBlock .rule, rest)
      | none =>
        match Shape.heading? start.rest with
        | some (level, rest) => finished.addRead (Paragraph.headingRest containers level rest)
        | none =>
          match Shape.fence? start.rest with
          | some (fence, rest) =>
            finished.addRead (Verbatim.fenced containers fence cursor.indent rest)
          | none =>
            match LinkDefinition.read? state.containers start.rest with
            | some (label, target, rest) => (state.define label target, rest)
            | none =>
              finished.addRead
                (Paragraph.read containers none ((start.margin text).getLast? <|> before)
                  start.rest)

/-- Reads the checkbox of a task: whether it is checked, and the place after it. -/
def checkbox? (cursor : Cursor) : Option (Bool × Cursor) :=
  let start := cursor.skipColumns 3
  match start.rest with
  | '[' :: sign :: ']' :: rest =>
    if rest.head?.any isAsciiBlank then
      if sign = 'x' ∨ sign = 'X' then some (true, start.advance 3)
      else if isLineBlank sign then some (false, start.advance 3)
      else none
    else none
  | _ => none

/-- Reads what follows the checkbox of a task: nothing, or a paragraph. -/
def readTask (isChecked : Bool) (text : Text) (cursor : Cursor) (state : BlockState) :
    BlockState × Text :=
  match cursor.blankLine? with
  | some rest => ({ state.addBlock (.checkbox isChecked) with inNewItem := true }, rest)
  | none =>
    let start := cursor.skipBlanks
    state.finishList.addRead
      (Paragraph.read state.containers (some isChecked) (start.margin text).getLast? start.rest)

/-- The mark of a list item at a place, with the width of the item and the place after the
blanks that belong to the mark. -/
def item? (cursor : Cursor) : Option (ListMark × Nat × Cursor) :=
  let start := cursor.skipIndent
  if (Shape.rule? start.rest).isSome then none
  else
    match Shape.item? start.rest with
    | none => none
    | some (mark, length) =>
      let after := (start.advance length).skipColumn
      let width := cursor.indent + length + 1
      if after.blankLine?.isSome || 4 ≤ after.indent then some (mark, width, after)
      else some (mark, width + after.indent, after.skipIndent)

/-- Opens the blocks that a line starts with, at most `fuel`, and reads what is left of the line;
`before` is the character before the line, and `text` the document from its start on. -/
def readInside (before : Option Char) (text : Text) :
    (fuel : Nat) → Cursor → BlockState → BlockState × Text
  | 0, cursor, state => state.readText before text cursor
  | fuel + 1, cursor, state =>
    let readRest (state : BlockState) : BlockState × Text :=
      match cursor.blankLine? with
      | some rest => (state.noteBlank, rest)
      | none => state.readText before text cursor
    if 4 ≤ cursor.indent then readRest state
    else
      match item? cursor with
      | some (mark, width, after) =>
        let state := (state.continueList mark).openFrame (.item (.item width) [])
        match after.blankLine? with
        | some rest => ({ state with inNewItem := true }, rest)
        | none =>
          match checkbox? after with
          | some (isChecked, after) => state.readTask isChecked text after
          | none => readInside before text fuel after state
      | none =>
        let start := cursor.skipIndent
        match start.rest with
        | '>' :: _ =>
          readInside before text fuel (start.advance 1).skipColumn
            (state.finishList.openFrame (.quote []))
        | _ => readRest state

/-- Reads the block at the start of a line, and gives what follows it. -/
def readBlock (text : Text) (state : BlockState) : BlockState × Text :=
  let (count, cursor) := Container.enter (.ofLine text) state.containers
  let (state, rest) :=
    (state.closeTo count).readInside state.previous text (text.length + 1) cursor
  ({ state with previous := some '\n' }, rest)

/-- Reads blocks, at most `fuel`. -/
def readBlocks : (fuel : Nat) → Text → BlockState → BlockState
  | 0, _, state => state
  | _, [], state => state
  | fuel + 1, c :: text, state =>
    let (state, rest) := state.readBlock (c :: text)
    readBlocks fuel rest state

/-- What there is in a document. -/
def ofText (text : Text) : BlockState :=
  let state := initial.readBlocks text.length text
  state.closeFrames state.frames.length

end BlockState

end Folio.Markdown
