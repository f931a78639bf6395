import Folio.Proofs.ContentError

/-!
# Pages put together from parts

A page is a row of parts: stretches of text and command headings. When every stretch is inert for
commands and every heading reads as its command, carrying out the commands works part by part. A
stretch of text stays as it is, and a heading is replaced by the response to its command after
all commands before it.
-/

namespace Folio

/-- A part of a page: text without a command, or a heading with the command that it spells. -/
inductive PagePart where
  | plain (text : Text)
  | heading (source : Text) (command : Command)

namespace PagePart

/-- A part as it is written. -/
def source : PagePart → Text
  | .plain text => text
  | .heading source _ => source

/-- The page that parts make. -/
def document (parts : List PagePart) : Text :=
  parts.flatMap source

/-- The command of a part, if it is a heading. -/
def command? : PagePart → Option Command
  | .plain _ => none
  | .heading _ command => some command

/-- The commands of a row of parts, in order. -/
def commands (parts : List PagePart) : List Command :=
  parts.filterMap command?

@[simp]
theorem commands_append (first second : List PagePart) :
    commands (first ++ second) = commands first ++ commands second :=
  List.filterMap_append

@[simp]
theorem commands_plain_cons (text : Text) (parts : List PagePart) :
    commands (.plain text :: parts) = commands parts :=
  rfl

@[simp]
theorem commands_heading_cons (source : Text) (command : Command) (parts : List PagePart) :
    commands (.heading source command :: parts) = command :: commands parts :=
  rfl

/-- A part is read as it is meant: no command starts in a text, and a heading reads as its
command, whatever follows. -/
def IsRead : PagePart → Prop
  | .plain text => Text.Inert Command.command? text
  | .heading source command => Text.ReadsAs Command.command? source command

/-- A `~` heading of a name and an argument. -/
def opening (name argument : Text) : PagePart :=
  .heading (Command.written '1' '~' (name ++ ' ' :: argument)) ⟨.box, name, argument⟩

/-- A bare `~` heading. -/
def closing : PagePart :=
  .heading (Command.written '1' '~' []) ⟨.box, [], []⟩

theorem isRead_plain {text : Text} (noHeading : Text.hasPart "<h".toList text = false)
    (noEnd : text.getLast? ≠ some '<') : (plain text).IsRead :=
  Command.inert_command? noHeading noEnd

theorem isRead_opening {name argument : Text} (nonempty : name ≠ [])
    (noBlank : ∀ c ∈ name, Unicode.isBlank c = false) (nameNoTag : '<' ∉ name)
    (argumentNoTag : '<' ∉ argument) (argumentOneLine : '\n' ∉ argument)
    (argumentTrimmed : Text.trimStart argument = argument) :
    (opening name argument).IsRead := by
  have nameOneLine : '\n' ∉ name := fun member => absurd (noBlank _ member) (by decide)
  have spelled := Command.ofText_append .box noBlank argumentTrimmed
  rw [opening, ← spelled]
  apply Command.readsAs_written (by decide) rfl
  · simp [nameNoTag, argumentNoTag]
  · simp [nameOneLine, argumentOneLine]
  · intro c head
    cases name with
    | nil => exact absurd rfl nonempty
    | cons d tail =>
      obtain rfl : d = c := by simpa using head
      exact noBlank d (List.mem_cons_self ..)

theorem isRead_closing : closing.IsRead :=
  Command.readsAs_written (by decide) rfl (by simp) (by simp) (by simp)

/-- The pieces that a part stands for. -/
def pieces : PagePart → List (Piece Command)
  | .plain text => text.map Piece.plain
  | .heading _ command => [.item command]

/-- A page is read as the parts in a row: its headings are the ones among them. -/
def IsReadAs (html : Text) (parts : List PagePart) : Prop :=
  Text.pieces Command.command? html = parts.flatMap pieces

/-- Parts that are each read as they are meant are read so in a row. -/
theorem isReadAs_document {parts : List PagePart} (read : ∀ part ∈ parts, part.IsRead) :
    IsReadAs (document parts) parts := by
  induction parts with
  | nil => rfl
  | cons part parts inductionHypothesis =>
    obtain ⟨isRead, read⟩ := List.forall_mem_cons.1 read
    have later := inductionHypothesis read
    rw [IsReadAs] at later ⊢
    rw [document, List.flatMap_cons, ← document, List.flatMap_cons, ← later]
    cases part with
    | plain text => exact Text.pieces_append_of_inert isRead _
    | heading source command => exact Text.pieces_append_of_readsAs isRead _

/-- Every page is read as some row of parts. -/
theorem exists_isReadAs (html : Text) :
    ∃ parts, document parts = html ∧ IsReadAs html parts := by
  let part : Piece (Text × Command) → PagePart
    | .plain c => .plain [c]
    | .item (source, command) => .heading source command
  let page := Text.pieces (Text.withSource Command.command?) html
  refine ⟨page.map part, ?_, ?_⟩
  · conv_rhs => rw [← Text.expand_pieces_withSource Command.command?_proper html]
    rw [document, List.flatMap_map]
    apply List.flatMap_congr
    rintro (c | ⟨source, command⟩) _ <;> rfl
  · rw [IsReadAs, ← Text.map_pieces_withSource Command.command?_proper html, List.flatMap_map,
      ← List.flatMap_pure_eq_map]
    apply List.flatMap_congr
    rintro (c | ⟨source, command⟩) _ <;> rfl

theorem items_pieces (parts : List PagePart) :
    Piece.items (parts.flatMap pieces) = commands parts := by
  induction parts with
  | nil => rfl
  | cons part parts inductionHypothesis =>
    rw [List.flatMap_cons, Piece.items_append, inductionHypothesis]
    cases part with
    | plain text => simp [pieces]
    | heading source command => simp [pieces]

/-! ## What a row of parts comes to -/

/-- What parts are turned into while a box may be open. -/
def emitted (tables : Tables) (held : Option Text) (parts : List PagePart) : Text :=
  (respondAll tables held (parts.flatMap pieces)).flatMap (Piece.expand Response.fragment)

@[simp]
theorem emitted_nil (tables : Tables) (held : Option Text) : emitted tables held [] = [] :=
  rfl

theorem emitted_append (tables : Tables) (held : Option Text) (first second : List PagePart) :
    emitted tables held (first ++ second) =
      emitted tables held first ++
        emitted tables (Command.heldAfter tables held (commands first)) second := by
  simp only [emitted, List.flatMap_append, Command.respondAll_append, items_pieces]

@[simp]
theorem emitted_plain_cons (tables : Tables) (held : Option Text) (text : Text)
    (parts : List PagePart) :
    emitted tables held (.plain text :: parts) = text ++ emitted tables held parts := by
  rw [emitted, List.flatMap_cons, pieces, Command.respondAll_append, Piece.items_map_plain,
    Command.heldAfter_nil, Command.respondAll_map_plain, List.flatMap_append,
    Piece.flatMap_expand_map_plain]
  rfl

@[simp]
theorem emitted_heading_cons (tables : Tables) (held : Option Text) (source : Text)
    (command : Command) (parts : List PagePart) :
    emitted tables held (.heading source command :: parts) =
      (command.respond tables held).fragment ++
        emitted tables (command.respond tables held).held parts := by
  simp [emitted, pieces, respondAll]

/-- A heading that names a box is replaced by the part before the content, and holds back the part
after it. -/
theorem emitted_opening_cons {tables : Tables} {name argument body : Text}
    (opens : (⟨.box, name, argument⟩ : Command).opened? tables = some body) (held : Option Text)
    (parts : List PagePart) :
    emitted tables held (opening name argument :: parts) =
      Text.replaceAll "@ARGS@".toList (Entity.requote argument) (splitBox body).1 ++
        emitted tables (some (splitBox body).2) parts := by
  rw [opening, emitted_heading_cons, Command.respond_of_opened opens]
  rfl

/-- A bare heading is replaced by what is held back. -/
theorem emitted_closing_cons (tables : Tables) (held : Option Text) (parts : List PagePart) :
    emitted tables held (closing :: parts) = held.getD [] ++ emitted tables none parts := by
  rw [closing, emitted_heading_cons, Command.respond_of_isBare ⟨rfl, rfl⟩]

/-- Carrying out the commands of a page gives what its parts are turned into. -/
theorem html_carryOutCommands {html : Text} {parts : List PagePart} (read : IsReadAs html parts)
    (tables : Tables) : (carryOutCommands tables html).html = emitted tables none parts := by
  rw [carryOutCommands, read]
  rfl

/-! ## Notices -/

/-- A command that is not idle resolves to something. -/
theorem notice_respond_of_busy {tables : Tables} {command : Command}
    (busy : ¬ command.IsIdle tables) : (command.respond tables none).notice = none := by
  rcases Command.isBare_or_opened_or_isIdle tables command with bare | ⟨body, opens⟩ | idle
  · rw [Command.respond_of_isBare bare]
  · rw [Command.respond_of_opened opens]
  · exact absurd idle busy

/-- A page whose `~` headings are all bare or name a box gives no notice. -/
theorem notices_carryOutCommands {tables : Tables} {html : Text} {parts : List PagePart}
    (read : IsReadAs html parts) (busy : ∀ command ∈ commands parts, ¬ command.IsIdle tables) :
    (carryOutCommands tables html).notices = [] := by
  have items : Text.items Command.command? html = commands parts :=
    (congrArg Piece.items read).trans (items_pieces parts)
  rw [notices_carryOutCommands_eq, items, List.filterMap_eq_nil_iff]
  exact fun command member => notice_respond_of_busy (busy command member)

end PagePart

/-! ## Pages with one command or none -/

/-- A page that is one command heading and text without a command after it comes to the response to
the command, and the text stays as it stands. -/
theorem carryOutCommands_append_of_readsAs {source rest : Text} {command : Command}
    (reads : Text.ReadsAs Command.command? source command)
    (free : Text.ItemFree Command.command? rest) (tables : Tables) :
    carryOutCommands tables (source ++ rest) =
      { html := (command.respond tables none).fragment ++ rest
        settings := (command.respond tables none).setting.toList
        notices := (command.respond tables none).notice.toList } := by
  have read : Text.pieces Command.command? (source ++ rest) =
      .item command :: rest.map Piece.plain := by
    rw [Text.pieces_append_of_readsAs reads, Text.pieces_of_itemFree free]
  rw [carryOutCommands, read]
  generalize response : command.respond tables none = answer
  obtain ⟨fragment, setting, notice, held⟩ := answer
  simp only [respondAll, response, Command.respondAll_map_plain, Outcome.ofResponses,
    List.flatMap_cons, Piece.flatMap_expand_map_plain, Piece.expand_item]
  cases setting <;> cases notice <;> simp [List.filterMap_map, Function.comp_def]

/-- A page that is one command heading comes to the response to its command. -/
theorem carryOutCommands_of_readsAs {source : Text} {command : Command}
    (reads : Text.ReadsAs Command.command? source command) (tables : Tables) :
    carryOutCommands tables source =
      { html := (command.respond tables none).fragment
        settings := (command.respond tables none).setting.toList
        notices := (command.respond tables none).notice.toList } := by
  have alone := @carryOutCommands_append_of_readsAs source [] command reads trivial tables
  rwa [List.append_nil, List.append_nil] at alone

/-- A page without a command stays as it stands. -/
theorem carryOutCommands_of_itemFree {html : Text}
    (free : Text.ItemFree Command.command? html) (tables : Tables) :
    carryOutCommands tables html = { html := html, settings := [], notices := [] } := by
  rw [carryOutCommands, Text.pieces_of_itemFree free, Command.respondAll_map_plain,
    Outcome.ofResponses, Piece.flatMap_expand_map_plain]
  simp [List.filterMap_map, Function.comp_def]

end Folio
