import Folio.Declaration
import Folio.Placeholder
import Folio.Unicode.Digit

/-!
# Commands in headings

A heading whose text starts with `@` or `~` is a command.

* `@word argument` expands the setting or macro `word`; a setting also records the argument.
* `~word argument` opens the box `word`: the part of its body before `@BODY@` stands in for the
  heading, and the part after it is held back.
* `~` closes the open box: the part that was held back stands in for the heading.

One box is open at a time. Opening a box while another is open drops what the earlier one held
back, and a box that is open at the end is never closed.
-/

namespace Folio

/-- The sign that a command starts with. -/
inductive Sigil where
  /-- `@`, for settings and macros. -/
  | expand
  /-- `~`, for boxes. -/
  | box
deriving DecidableEq, Repr

/-- The sigil that a character stands for. -/
def Sigil.ofChar? : Char → Option Sigil
  | '@' => some .expand
  | '~' => some .box
  | _ => none

/-- A command heading as it is written: what follows the sigil, split into its first word and
the rest. -/
structure Command where
  sigil : Sigil
  word : Text
  argument : Text
deriving DecidableEq, Repr

namespace Command

/-- Recognises the end of a heading, of whatever level. -/
def headingEnd? (text : Text) : Option Text := do
  match ← Text.dropLead? "</h".toList text with
  | level :: '>' :: after => if Unicode.isDecimalDigit level then some after else none
  | _ => none

/-- The text up to the first heading end on the same line. -/
def headingText? : Text → Option (Text × Text)
  | [] => none
  | c :: text =>
    match headingEnd? (c :: text) with
    | some after => some ([], after)
    | none =>
      if c = '\n' then none
      else (headingText? text).map fun (content, after) => (c :: content, after)

/-- Recognises the start of a heading, with whatever attributes. -/
def headingStart? (text : Text) : Option Text := do
  match ← Text.dropLead? "<h".toList text with
  | level :: text =>
    if Unicode.isDecimalDigit level then
      match text.dropWhile (· ≠ '>') with
      | _ :: after => some after
      | [] => none
    else none
  | [] => none

/-- The command that the text after a sigil spells. -/
def ofText (sigil : Sigil) (text : Text) : Command :=
  match Text.cutAtBlank? text with
  | some (word, argument) => ⟨sigil, word, Text.trimStart argument⟩
  | none => ⟨sigil, text, []⟩

/-- Recognises a command heading. -/
def command? (text : Text) : Option (Command × Text) := do
  match Text.trimStart (← headingStart? text) with
  | sign :: text =>
    let sigil ← Sigil.ofChar? sign
    let (content, after) ← headingText? (Text.trimStart text)
    some (ofText sigil content, after)
  | [] => none

/-- The requoted first word of a command, by which tables are searched. -/
def name (command : Command) : Text :=
  Entity.requote command.word

/-- The requoted argument of a command. -/
def value (command : Command) : Text :=
  Entity.requote command.argument

end Command

/-- The mark in the body of a box at which the content goes. -/
def bodyMark : Text := "@BODY@".toList

/-- The parts of a box body before and after its content. -/
def splitBox (body : Text) : Text × Text :=
  (Text.cutAt? bodyMark body).getD (body, [])

/-- What a command comes to. -/
structure Response where
  /-- What stands in for the heading. -/
  fragment : Text
  /-- The setting that is recorded, with its argument. -/
  setting : Option (Text × Text) := none
  /-- The error that is reported. -/
  notice : Option Notice := none
  /-- What the box that is open after the command holds back. -/
  held : Option Text
deriving DecidableEq, Repr

namespace Response

/-- The response to a command that names nothing. -/
def ofNotice (notice : Notice) (held : Option Text) : Response where
  fragment := notice.fragment
  notice := some notice
  held := held

end Response

namespace Command

/-- A body with the argument and the word of a command filled in. -/
def expansion (command : Command) (body : Text) : Text :=
  Placeholder.fill
    (.ofList [("ARGS".toList, command.value), ("CMD".toList, command.name)])
    ["ARGS".toList, "CMD".toList] body

/-- The response to an `@` heading. A setting counts before a macro. -/
def respondExpand (tables : Tables) (held : Option Text) (command : Command) : Response :=
  match tables.settings.find? command.name with
  | some body =>
    { fragment := command.expansion body
      setting := some (Unicode.lowerCase command.name, command.value)
      held := held }
  | none =>
    match tables.macros.find? command.name with
    | some body => { fragment := command.expansion body, held := held }
    | none => .ofNotice (.unknownCommand (Entity.decode command.word)) held

/-- The response to a `~` heading. -/
def respondBox (tables : Tables) (held : Option Text) (command : Command) : Response :=
  if command.name = [] then
    { fragment := held.getD [], held := none }
  else
    match tables.boxes.find? command.name with
    | some body =>
      let (opening, closing) := splitBox body
      { fragment := Text.replaceAll "@ARGS@".toList command.value opening
        held := some closing }
    | none => .ofNotice (.unknownBox (Entity.decode command.word)) held

/-- The response to a command while a box may be open. -/
def respond (tables : Tables) (held : Option Text) (command : Command) : Response :=
  match command.sigil with
  | .expand => command.respondExpand tables held
  | .box => command.respondBox tables held

end Command

/-- The responses to the commands among the pieces of a page, in order, each given the box that
the earlier ones leave open. -/
def respondAll (tables : Tables) : Option Text → List (Piece Command) → List (Piece Response)
  | _, [] => []
  | held, .plain c :: rest => .plain c :: respondAll tables held rest
  | held, .item command :: rest =>
    let response := command.respond tables held
    .item response :: respondAll tables response.held rest

/-- A page after its commands have been carried out. -/
structure Outcome where
  html : Text
  settings : List (Text × Text)
  notices : List Notice
deriving DecidableEq, Repr

/-- What the responses make of a page. -/
def Outcome.ofResponses (pieces : List (Piece Response)) : Outcome where
  html := pieces.flatMap (Piece.expand Response.fragment)
  settings := pieces.filterMap fun piece => piece.item?.bind Response.setting
  notices := pieces.filterMap fun piece => piece.item?.bind Response.notice

/-- Carries out every command heading of a page. -/
def carryOutCommands (tables : Tables) (html : Text) : Outcome :=
  .ofResponses (respondAll tables none (Text.pieces Command.command? html))

end Folio
