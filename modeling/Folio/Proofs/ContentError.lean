import Folio.Proofs.BoxHistory

/-!
# Blocks and headings at fault

A declaration block is rejected for one of three reasons, a command heading resolves to nothing for
one of two. Each reason is stated here in terms of the block or of the tables, with the notice that
is due for it, and that notice is given exactly then. What a heading comes to in this case does not
depend on the box that is open.
-/

namespace Folio

/-- A declaration block cannot be accepted, and the notice says why. -/
inductive DeclarationBlock.Rejected (block : DeclarationBlock) : Notice → Prop
  /-- Its attributes give no name that is not empty. -/
  | unnamed (nameless : name? (Attribute.list block.attributes) = none) :
      Rejected block .unnamedDeclaration
  /-- Its name holds whitespace. -/
  | blank {name : Text} (named : name? (Attribute.list block.attributes) = some name)
      (holdsBlank : ∃ c ∈ name, Unicode.isBlank c = true) : Rejected block (.blankInName name)
  /-- It is an aside under the name of the main region. -/
  | reserved (named : name? (Attribute.list block.attributes) = some mainRegion)
      (isAside :
        BlockKind.classify (Attribute.lookup? "class".toList (Attribute.list block.attributes)) =
          .aside) :
      Rejected block .reservedAside

/-- A block is an error exactly if it is rejected. -/
theorem DeclarationBlock.declaration_eq_error_iff {block : DeclarationBlock} {notice : Notice} :
    block.declaration = .error notice ↔ block.Rejected notice := by
  constructor
  · intro isError
    rw [declaration] at isError
    dsimp only at isError
    split at isError
    · next nameless =>
      obtain rfl := Except.error.inj isError
      exact .unnamed nameless
    · next name named =>
      split_ifs at isError with holdsBlank isReserved
      · obtain rfl := Except.error.inj isError
        exact .blank named (List.any_eq_true.1 holdsBlank)
      · obtain rfl := Except.error.inj isError
        exact .reserved (isReserved.2 ▸ named) isReserved.1
  · intro rejected
    cases rejected with
    | unnamed nameless => rw [declaration, nameless]
    | blank named holdsBlank => simp [declaration, named, holdsBlank]
    | reserved named isAside =>
      have noBlank : ¬ mainRegion.any Unicode.isBlank = true := by decide
      rw [declaration, named]
      dsimp only
      rw [if_neg noBlank, if_pos ⟨isAside, rfl⟩]

namespace Command

/-- A command resolves to nothing under some tables, and the notice says which. -/
inductive Unresolved (tables : Tables) (command : Command) : Notice → Prop
  /-- An `@` heading names neither a setting nor a macro. -/
  | expand (isExpand : command.sigil = .expand)
      (noSetting : tables.settings.find? command.name = none)
      (noMacro : tables.macros.find? command.name = none) :
      Unresolved tables command (.unknownCommand (Entity.decode command.word))
  /-- A `~` heading has a word that names no box. -/
  | box (isBox : command.sigil = .box) (named : command.word ≠ [])
      (noBox : tables.boxes.find? command.name = none) :
      Unresolved tables command (.unknownBox (Entity.decode command.word))

/-- The response to a command that resolves to nothing is the notice, whatever box is open, and the
box stays open. -/
theorem Unresolved.respond_eq {tables : Tables} {command : Command} {notice : Notice}
    (unresolved : command.Unresolved tables notice) (held : Option Text) :
    command.respond tables held = .ofNotice notice held := by
  cases unresolved with
  | expand isExpand noSetting noMacro => simp [respond, isExpand, respondExpand, noSetting, noMacro]
  | box isBox named noBox =>
    exact respond_of_unknown isBox (isIdle_iff.2 (.inr ⟨named, noBox⟩)) held

/-- A command gives a notice exactly if it resolves to nothing. -/
theorem notice_respond_eq_some_iff {tables : Tables} {command : Command} {held : Option Text}
    {notice : Notice} :
    (command.respond tables held).notice = some notice ↔ command.Unresolved tables notice := by
  constructor
  · intro gives
    cases isSigil : command.sigil with
    | expand =>
      simp only [respond, isSigil, respondExpand] at gives
      split at gives
      · cases gives
      · next noSetting =>
        split at gives
        · cases gives
        · next noMacro =>
          obtain rfl := Option.some.inj gives
          exact .expand isSigil noSetting noMacro
    | box =>
      simp only [respond, isSigil, respondBox] at gives
      split at gives
      · cases gives
      · next named =>
        split at gives
        · cases gives
        · next noBox =>
          obtain rfl := Option.some.inj gives
          exact .box isSigil (fun empty => named (name_eq_nil_iff.2 empty)) noBox
  · intro unresolved
    rw [unresolved.respond_eq held]
    rfl

/-- Whether a command gives a notice, and which, does not depend on the open box. -/
theorem notice_respond_eq (tables : Tables) (held : Option Text) (command : Command) :
    (command.respond tables held).notice = (command.respond tables none).notice :=
  Option.ext fun notice => by simp only [notice_respond_eq_some_iff]

end Command

theorem filterMap_notice_respondAll (tables : Tables) (held : Option Text)
    (pieces : List (Piece Command)) :
    (respondAll tables held pieces).filterMap (fun piece => piece.item?.bind Response.notice) =
      (Piece.items pieces).filterMap fun command => (command.respond tables none).notice := by
  induction pieces generalizing held with
  | nil => rfl
  | cons piece pieces inductionHypothesis =>
    cases piece with
    | plain c => exact inductionHypothesis held
    | item command =>
      rw [respondAll, List.filterMap_cons, Piece.items_item_cons, List.filterMap_cons,
        inductionHypothesis, Piece.item?_item, Option.bind_some, Command.notice_respond_eq]

/-- The notices of a page are those of its commands, one after another. -/
theorem notices_carryOutCommands_eq (tables : Tables) (html : Text) :
    (carryOutCommands tables html).notices =
      (Text.items Command.command? html).filterMap fun command =>
        (command.respond tables none).notice :=
  filterMap_notice_respondAll tables none _

end Folio
