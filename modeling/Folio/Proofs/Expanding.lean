import Folio.Proofs.Argument
import Folio.Proofs.BoxHistory
import Folio.Proofs.ContentError
import Folio.Proofs.Declaration
import Folio.Proofs.Filling

/-!
# What an `@` heading comes to

An `@` heading is expanded with the body of a setting, or with that of a macro if there is no such
setting, or it is an error. The names of settings and macros are compared in lower case, but the
word is filled into the body as it is written. Which of the three it is depends on the heading and
the tables alone, so a page records its settings heading by heading.
-/

namespace Folio

/-- The macros and the settings of a page are looked up in lower case. -/
theorem find?_declareAll_of_folded (defaults : Defaults) (declarations : List Declaration)
    {kind : TableKind} (folded : kind.nameCase = .folded) (name : Text) :
    ((defaults.tables.declareAll declarations).of kind).find? name =
      ((defaults.tables.declareAll declarations).of kind).toDictionary.find?
        (Unicode.lowerCase name) := by
  rw [Table.find?_eq_find?_toDictionary, Table.key, nameCase_declareAll, folded]
  rfl

namespace Command

open Placeholder (Filled)

/-! ## One heading -/

/-- What an expanded body shows for the name of a placeholder: the argument and the word of the
command under two names, and nothing under any other. -/
def shown (command : Command) (name : Text) : Text :=
  if name = "ARGS".toList then command.value
  else if name = "CMD".toList then command.name
  else []

theorem filled_expansion (command : Command) (body : Text) :
    Filled command.shown body (command.expansion body) := by
  rw [Placeholder.filled_iff, expansion, Placeholder.fill]
  congr 1
  funext name
  rw [shown]
  split
  · next isArgument =>
    subst isArgument
    rfl
  split
  · next isWord =>
    subst isWord
    rfl
  · next notArgument notWord =>
    have noArgument : (name == "ARGS".toList) = false := beq_false_of_ne notArgument
    have noWord : (name == "CMD".toList) = false := beq_false_of_ne notWord
    have absent : (Dictionary.ofList
        [("ARGS".toList, command.value), ("CMD".toList, command.name)]).find? name = none := by
      rw [Dictionary.ofList, Dictionary.find?_insertAll]
      simp only [List.reverse_cons, List.reverse_nil, List.nil_append, List.cons_append,
        List.lookup_cons, noArgument, noWord, List.lookup_nil]
      rfl
    have unlisted : ["ARGS".toList, "CMD".toList].contains name = false := by
      rw [List.contains_cons, List.contains_cons, noArgument, noWord]
      rfl
    rw [Placeholder.value, absent, unlisted]
    rfl

/-- What an `@` heading comes to: the text in its place, the setting that it records and the notice
that it gives. -/
inductive Expands (tables : Tables) (command : Command) :
    Text → Option (Text × Text) → Option Notice → Prop
  /-- Its word names a setting, whatever the macros are. -/
  | setting {body fragment : Text}
      (found : tables.settings.toDictionary.find? (Unicode.lowerCase command.name) = some body)
      (filled : Filled command.shown body fragment) :
      Expands tables command fragment (some (Unicode.lowerCase command.name, command.value)) none
  /-- Its word names a macro and no setting. -/
  | plain {body fragment : Text}
      (noSetting : tables.settings.toDictionary.find? (Unicode.lowerCase command.name) = none)
      (found : tables.macros.toDictionary.find? (Unicode.lowerCase command.name) = some body)
      (filled : Filled command.shown body fragment) :
      Expands tables command fragment none none
  /-- Its word names neither. -/
  | unknown
      (noSetting : tables.settings.toDictionary.find? (Unicode.lowerCase command.name) = none)
      (noMacro : tables.macros.toDictionary.find? (Unicode.lowerCase command.name) = none) :
      Expands tables command
        ("<div class='ui negative message'>".toList ++
          Entity.quote ("Unknown command: @".toList ++ Entity.decode command.word) ++
          "</div>".toList)
        none (some (.unknownCommand (Entity.decode command.word)))

/-- A heading has one outcome. -/
theorem Expands.unique {tables : Tables} {command : Command} {fragment otherFragment : Text}
    {setting otherSetting : Option (Text × Text)} {notice otherNotice : Option Notice}
    (first : command.Expands tables fragment setting notice)
    (second : command.Expands tables otherFragment otherSetting otherNotice) :
    otherFragment = fragment ∧ otherSetting = setting ∧ otherNotice = notice := by
  have same {body other written otherWritten : Text} {found : Option Text}
      (isBody : found = some body) (isOther : found = some other)
      (filled : Filled command.shown body written)
      (otherFilled : Filled command.shown other otherWritten) : otherWritten = written := by
    obtain rfl : body = other := Option.some.inj (isBody.symm.trans isOther)
    rw [Placeholder.filled_iff.1 filled, Placeholder.filled_iff.1 otherFilled]
  cases first with
  | setting found filled =>
    cases second with
    | setting otherFound otherFilled => exact ⟨same found otherFound filled otherFilled, rfl, rfl⟩
    | plain noSetting => cases noSetting.symm.trans found
    | unknown noSetting => cases noSetting.symm.trans found
  | plain noSetting found filled =>
    cases second with
    | setting otherFound => cases noSetting.symm.trans otherFound
    | plain _ otherFound otherFilled => exact ⟨same found otherFound filled otherFilled, rfl, rfl⟩
    | unknown _ noMacro => cases noMacro.symm.trans found
  | unknown noSetting noMacro =>
    cases second with
    | setting otherFound => cases noSetting.symm.trans otherFound
    | plain _ otherFound => cases noMacro.symm.trans otherFound
    | unknown => exact ⟨rfl, rfl, rfl⟩

/-- The response to an `@` heading is its outcome, whatever box is open. -/
theorem expands_respond {tables : Tables}
    (settings : ∀ name, tables.settings.find? name =
      tables.settings.toDictionary.find? (Unicode.lowerCase name))
    (macros : ∀ name, tables.macros.find? name =
      tables.macros.toDictionary.find? (Unicode.lowerCase name))
    {command : Command} (isExpand : command.sigil = .expand) (held : Option Text) :
    command.Expands tables (command.respond tables held).fragment
      (command.respond tables held).setting (command.respond tables held).notice := by
  rw [respond, isExpand]
  dsimp only
  rw [respondExpand]
  cases setting : tables.settings.find? command.name with
  | some body => exact .setting (settings _ ▸ setting) (command.filled_expansion body)
  | none =>
    have noSetting := settings command.name ▸ setting
    cases plain : tables.macros.find? command.name with
    | some body => exact .plain noSetting (macros _ ▸ plain) (command.filled_expansion body)
    | none => exact .unknown noSetting (macros _ ▸ plain)

/-- Only an `@` heading records a setting, and what it records does not depend on the open box. -/
theorem setting_respond_eq (tables : Tables) (held : Option Text) (command : Command) :
    (command.respond tables held).setting = (command.respond tables none).setting := by
  cases isSigil : command.sigil with
  | expand =>
    simp only [respond, isSigil, respondExpand]
    cases tables.settings.find? command.name with
    | some body => rfl
    | none => cases tables.macros.find? command.name <;> rfl
  | box =>
    simp only [respond, isSigil, respondBox]
    split
    · rfl
    · cases tables.boxes.find? command.name <;> rfl

theorem setting_respond_of_box {tables : Tables} {command : Command}
    (isBox : command.sigil = .box) (held : Option Text) :
    (command.respond tables held).setting = none := by
  simp only [respond, isBox, respondBox]
  split
  · rfl
  · cases tables.boxes.find? command.name <;> rfl

end Command

/-! ## A page -/

theorem filterMap_setting_respondAll (tables : Tables) (held : Option Text)
    (pieces : List (Piece Command)) :
    (respondAll tables held pieces).filterMap (fun piece => piece.item?.bind Response.setting) =
      (Piece.items pieces).filterMap fun command => (command.respond tables none).setting := by
  induction pieces generalizing held with
  | nil => rfl
  | cons piece pieces inductionHypothesis =>
    cases piece with
    | plain c => exact inductionHypothesis held
    | item command =>
      rw [respondAll, List.filterMap_cons, Piece.items_item_cons, List.filterMap_cons,
        inductionHypothesis, Piece.item?_item, Option.bind_some, Command.setting_respond_eq]

/-- The settings of a page are those of its commands, one after another. -/
theorem settings_carryOutCommands_eq (tables : Tables) (html : Text) :
    (carryOutCommands tables html).settings =
      (Text.items Command.command? html).filterMap fun command =>
        (command.respond tables none).setting :=
  filterMap_setting_respondAll tables none _

namespace CommandHeading

/-- The command headings of a page in their places. -/
def ofPage (tables : Tables) (html : Text) : List (Piece CommandHeading) :=
  place tables none (Text.pieces (Text.withSource Command.command?) html)

section OfPage

variable (tables : Tables) (html : Text)

theorem map_command_ofPage :
    (ofPage tables html).map (Piece.map command) = Text.pieces Command.command? html :=
  (map_command_place tables none _).trans (Text.map_pieces_withSource Command.command?_proper html)

theorem map_command_items_ofPage :
    (Piece.items (ofPage tables html)).map command = Text.items Command.command? html := by
  rw [← Piece.items_map, map_command_ofPage]
  rfl

theorem expand_source_ofPage : (ofPage tables html).flatMap (Piece.expand source) = html :=
  (expand_source_place tables none _).trans
    (Text.expand_pieces_withSource Command.command?_proper html)

theorem expand_fragment_ofPage :
    (ofPage tables html).flatMap (Piece.expand fragment) = (carryOutCommands tables html).html := by
  rw [ofPage, expand_fragment_place, Text.map_pieces_withSource Command.command?_proper]
  rfl

end OfPage

theorem map_source_place (tables : Tables) (held : Option Text)
    (pieces : List (Piece (Text × Command))) :
    (Piece.items (place tables held pieces)).map
        (fun heading => (heading.source, heading.command)) =
      Piece.items pieces := by
  induction pieces generalizing held with
  | nil => rfl
  | cons piece pieces inductionHypothesis =>
    cases piece with
    | plain c => simp [place, inductionHypothesis]
    | item value => simp [place, inductionHypothesis]

section Member

variable {tables : Tables} {html : Text} {heading : CommandHeading}

/-- The source of a heading in a page is a written form of its command. -/
theorem isWritten_of_mem_ofPage (isHeading : heading ∈ Piece.items (ofPage tables html)) :
    heading.command.IsWritten heading.source := by
  have member : (heading.source, heading.command) ∈
      Piece.items (Text.pieces (Text.withSource Command.command?) html) := by
    rw [← map_source_place tables none]
    exact List.mem_map_of_mem isHeading
  obtain ⟨after, found⟩ := Text.exists_after_of_mem_items Command.command?_proper member
  obtain ⟨source, split, written⟩ := Command.exists_source_of_command? found
  exact List.append_cancel_right split ▸ written

/-- A heading in a page shows the response to its command while some box may be open. -/
theorem exists_fragment_of_mem_ofPage (isHeading : heading ∈ Piece.items (ofPage tables html)) :
    ∃ held, heading.fragment = (heading.command.respond tables held).fragment := by
  obtain ⟨position, found⟩ := List.mem_iff_getElem?.1 isHeading
  exact ⟨_, fragment_eq_of_place tables found⟩

end Member

end CommandHeading

/-- Every `@` heading of a page has exactly one outcome: it is expanded with the body of the setting
of its word, without one with that of the macro, and otherwise it is an error. The settings and the
notices of the page are those of its headings one after another, and only `@` headings record a
setting. An empty body expands to nothing. -/
theorem carryOutCommands_expands (defaults : Defaults) (declarations : List Declaration)
    (html : Text) :
    let tables := defaults.tables.declareAll declarations
    let outcome := carryOutCommands tables html
    ∃ (page : List (Piece CommandHeading)) (recorded : Command → Option (Text × Text))
        (given : Command → Option Notice),
      page.map (Piece.map CommandHeading.command) = Text.pieces Command.command? html ∧
      page.flatMap (Piece.expand CommandHeading.source) = html ∧
      page.flatMap (Piece.expand CommandHeading.fragment) = outcome.html ∧
      outcome.settings = (Piece.items page).filterMap (fun heading => recorded heading.command) ∧
      outcome.notices = (Piece.items page).filterMap (fun heading => given heading.command) ∧
      ∀ heading ∈ Piece.items page,
        heading.command.IsWritten heading.source ∧
        (heading.command.sigil = .expand →
          heading.command.Expands tables heading.fragment (recorded heading.command)
            (given heading.command) ∧
          ∀ fragment setting notice, heading.command.Expands tables fragment setting notice →
            fragment = heading.fragment ∧ setting = recorded heading.command ∧
              notice = given heading.command) ∧
        (heading.command.sigil = .box → recorded heading.command = none) := by
  intro tables outcome
  let page := CommandHeading.ofPage tables html
  have commands : (Piece.items page).map CommandHeading.command =
      Text.items Command.command? html := CommandHeading.map_command_items_ofPage tables html
  refine ⟨page, fun command => (command.respond tables none).setting,
    fun command => (command.respond tables none).notice,
    CommandHeading.map_command_ofPage tables html, CommandHeading.expand_source_ofPage tables html,
    CommandHeading.expand_fragment_ofPage tables html, ?settings, ?notices, ?headings⟩
  case settings =>
    rw [settings_carryOutCommands_eq, ← commands, List.filterMap_map]
    rfl
  case notices =>
    rw [notices_carryOutCommands_eq, ← commands, List.filterMap_map]
    rfl
  case headings =>
    intro heading isHeading
    refine ⟨CommandHeading.isWritten_of_mem_ofPage isHeading, ?_,
      fun isBox => Command.setting_respond_of_box isBox none⟩
    intro isExpand
    obtain ⟨held, fragment⟩ := CommandHeading.exists_fragment_of_mem_ofPage isHeading
    have settings := @find?_declareAll_of_folded defaults declarations .settings rfl
    have macros := @find?_declareAll_of_folded defaults declarations .macros rfl
    have expands := Command.expands_respond settings macros isExpand held
    rw [← fragment, Command.setting_respond_eq, Command.notice_respond_eq] at expands
    exact ⟨expands, fun _ _ _ other => expands.unique other⟩

end Folio
