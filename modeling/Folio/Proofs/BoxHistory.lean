import Folio.Proofs.Heading

/-!
# Which box a heading closes

The commands of a page are carried out one after another, and between them only the part that the
open box holds back is remembered. This module says what is remembered in terms of the commands
alone: a bare `~` heading closes the box of the latest heading that opened one, unless another
bare heading stands between the two. Every other heading leaves what is remembered as it is.
-/

namespace Folio

namespace Command

/-- A `~` heading without a word. -/
def IsBare (command : Command) : Prop :=
  command.sigil = .box ∧ command.word = []

/-- The body of the box that a command opens: a `~` heading opens the box that is known under its
requoted word. -/
def opened? (tables : Tables) (command : Command) : Option Text :=
  if command.sigil = .box ∧ command.word ≠ [] then tables.boxes.find? command.name else none

/-- A command that has nothing to do with the open box: it neither closes nor opens one. -/
def IsIdle (tables : Tables) (command : Command) : Prop :=
  ¬ command.IsBare ∧ command.opened? tables = none

theorem name_eq_nil_iff {command : Command} : command.name = [] ↔ command.word = [] :=
  Entity.requote_eq_nil_iff

/-! ## One command -/

/-- A bare heading gives what was held back, and nothing is held back after it. -/
theorem respond_of_isBare {command : Command} (bare : command.IsBare) (tables : Tables)
    (held : Option Text) :
    command.respond tables held = { fragment := held.getD [], held := none } := by
  obtain ⟨isBox, empty⟩ := bare
  simp [respond, respondBox, isBox, name_eq_nil_iff.2 empty]

/-- A heading that opens a box gives the part before its content and holds back the rest,
whatever was held back before. -/
theorem respond_of_opened {tables : Tables} {command : Command} {body : Text}
    (opens : command.opened? tables = some body) (held : Option Text) :
    command.respond tables held =
      { fragment := Text.replaceAll "@ARGS@".toList command.value (splitBox body).1
        held := some (splitBox body).2 } := by
  unfold opened? at opens
  split at opens
  · next isOpening =>
    obtain ⟨isBox, named⟩ := isOpening
    have nonempty : command.name ≠ [] := fun empty => named (name_eq_nil_iff.1 empty)
    simp [respond, respondBox, isBox, nonempty, opens]
  · simp at opens

/-- A `~` heading that names no box gives a notice. -/
theorem respond_of_unknown {tables : Tables} {command : Command} (isBox : command.sigil = .box)
    (idle : command.IsIdle tables) (held : Option Text) :
    command.respond tables held =
      .ofNotice (.unknownBox (Entity.decode command.word)) held := by
  obtain ⟨notBare, notOpened⟩ := idle
  have named : command.word ≠ [] := fun empty => notBare ⟨isBox, empty⟩
  have nonempty : command.name ≠ [] := fun empty => named (name_eq_nil_iff.1 empty)
  rw [opened?, if_pos ⟨isBox, named⟩] at notOpened
  simp [respond, respondBox, isBox, nonempty, notOpened]

/-- Any other command leaves what is held back as it is. -/
theorem respond_held_of_isIdle {tables : Tables} {command : Command}
    (idle : command.IsIdle tables) (held : Option Text) :
    (command.respond tables held).held = held := by
  cases isBox : command.sigil with
  | box => rw [respond_of_unknown isBox idle]; rfl
  | expand =>
    simp only [respond, isBox, respondExpand]
    split
    · rfl
    · split <;> rfl

/-- A command is bare, opens a box or is idle. -/
theorem isBare_or_opened_or_isIdle (tables : Tables) (command : Command) :
    command.IsBare ∨ (∃ body, command.opened? tables = some body) ∨ command.IsIdle tables := by
  by_cases bare : command.IsBare
  · exact .inl bare
  · cases opens : command.opened? tables with
    | some body => exact .inr (.inl ⟨body, rfl⟩)
    | none => exact .inr (.inr ⟨bare, opens⟩)

/-- The idle commands are the `@` headings and the `~` headings whose word names no box. -/
theorem isIdle_iff {tables : Tables} {command : Command} :
    command.IsIdle tables ↔ command.sigil = .expand ∨
      command.word ≠ [] ∧ tables.boxes.find? command.name = none := by
  cases isBox : command.sigil with
  | expand => simp [IsIdle, IsBare, opened?, isBox]
  | box =>
    by_cases empty : command.word = []
    · simp [IsIdle, IsBare, isBox, empty]
    · simp [IsIdle, IsBare, opened?, isBox, empty]

/-- A bare heading opens nothing. -/
theorem IsBare.opened?_eq_none {command : Command} (bare : command.IsBare) (tables : Tables) :
    command.opened? tables = none := by
  simp [opened?, bare.2]

/-! ## A run of commands -/

/-- What is held back after a run of commands. -/
def heldAfter (tables : Tables) (held : Option Text) (commands : List Command) : Option Text :=
  commands.foldl (fun held command => (command.respond tables held).held) held

@[simp]
theorem heldAfter_nil (tables : Tables) (held : Option Text) : heldAfter tables held [] = held :=
  rfl

@[simp]
theorem heldAfter_cons (tables : Tables) (held : Option Text) (command : Command)
    (commands : List Command) :
    heldAfter tables held (command :: commands) =
      heldAfter tables (command.respond tables held).held commands :=
  rfl

theorem heldAfter_append (tables : Tables) (held : Option Text) (first second : List Command) :
    heldAfter tables held (first ++ second) =
      heldAfter tables (heldAfter tables held first) second :=
  List.foldl_append

/-- The responses to two runs of pieces are those to the first and, with the box that the first
leaves open, those to the second. -/
theorem respondAll_append (tables : Tables) (held : Option Text)
    (first second : List (Piece Command)) :
    respondAll tables held (first ++ second) =
      respondAll tables held first ++
        respondAll tables (heldAfter tables held (Piece.items first)) second := by
  induction first generalizing held with
  | nil => rfl
  | cons piece first inductionHypothesis =>
    cases piece with
    | plain c => simp [respondAll, inductionHypothesis]
    | item command => simp [respondAll, inductionHypothesis]

@[simp]
theorem respondAll_map_plain (tables : Tables) (held : Option Text) (text : Text) :
    respondAll tables held (text.map Piece.plain) = text.map Piece.plain := by
  induction text with
  | nil => rfl
  | cons c text inductionHypothesis => simpa [respondAll] using inductionHypothesis

/-! ## The open box by its history -/

/-- Before the command at position `now`, the box that is open is the one that the command at
position `opener` opened: every command between the two is idle. -/
structure OpenAt (tables : Tables) (commands : List Command) (opener now : Nat) (body : Text) :
    Prop where
  earlier : opener < now
  opens : ∃ command, commands[opener]? = some command ∧ command.opened? tables = some body
  undisturbed : ∀ position command, opener < position → position < now →
    commands[position]? = some command → command.IsIdle tables

/-- After an opening command its own box is open. -/
theorem OpenAt.of_opened {tables : Tables} {commands : List Command} {now : Nat}
    {command : Command} {body : Text} (found : commands[now]? = some command)
    (opens : command.opened? tables = some body) : OpenAt tables commands now (now + 1) body where
  earlier := Nat.lt_succ_self now
  opens := ⟨command, found, opens⟩
  undisturbed position command after before := by omega

/-- Where there is no command, or an idle one, the same box is open after it as before. -/
theorem openAt_succ_iff {tables : Tables} {commands : List Command} {now : Nat}
    (idle : ∀ command, commands[now]? = some command → command.IsIdle tables)
    {opener : Nat} {body : Text} :
    OpenAt tables commands opener (now + 1) body ↔ OpenAt tables commands opener now body := by
  constructor
  · rintro ⟨earlier, ⟨command, found, opens⟩, undisturbed⟩
    have different : opener ≠ now := by
      rintro rfl
      rw [(idle command found).2] at opens
      simp at opens
    exact ⟨by omega, ⟨command, found, opens⟩,
      fun position command after before => undisturbed position command after (by omega)⟩
  · rintro ⟨earlier, opens, undisturbed⟩
    refine ⟨by omega, opens, ?_⟩
    intro position command after before found
    by_cases last : position = now
    · exact idle command (last ▸ found)
    · exact undisturbed position command after (by omega) found

/-- Commands that come later have no part in what is open now. -/
theorem openAt_append_iff {tables : Tables} {commands : List Command} {now : Nat}
    (inside : now ≤ commands.length) (later : List Command) {opener : Nat} {body : Text} :
    OpenAt tables (commands ++ later) opener now body ↔ OpenAt tables commands opener now body := by
  have same : ∀ position, position < now → (commands ++ later)[position]? = commands[position]? :=
    fun position before => List.getElem?_append_left (by omega)
  constructor
  · rintro ⟨earlier, ⟨command, found, opens⟩, undisturbed⟩
    refine ⟨earlier, ⟨command, same opener earlier ▸ found, opens⟩, ?_⟩
    intro position other after before isOther
    exact undisturbed position other after before ((same position before).trans isOther)
  · rintro ⟨earlier, ⟨command, found, opens⟩, undisturbed⟩
    refine ⟨earlier, ⟨command, (same opener earlier).trans found, opens⟩, ?_⟩
    intro position other after before isOther
    exact undisturbed position other after before (same position before ▸ isOther)

/-- A command that is not idle closes or replaces whatever box was open before it. -/
theorem OpenAt.eq_of_not_isIdle {tables : Tables} {commands : List Command} {now opener : Nat}
    {command : Command} {body : Text} (openAt : OpenAt tables commands opener (now + 1) body)
    (found : commands[now]? = some command) (busy : ¬ command.IsIdle tables) : opener = now := by
  by_contra different
  have := openAt.earlier
  exact busy (openAt.undisturbed now command (by omega) (by omega) found)

/-- What is held back belongs to the open box; without an open box nothing is held back. -/
theorem heldAfter_take (tables : Tables) (commands : List Command) (now : Nat) :
    (∀ opener body, OpenAt tables commands opener now body →
        heldAfter tables none (commands.take now) = some (splitBox body).2) ∧
      ((∀ opener body, ¬ OpenAt tables commands opener now body) →
        heldAfter tables none (commands.take now) = none) := by
  induction now with
  | zero => exact ⟨fun opener body openAt => absurd openAt.earlier (by omega), fun _ => rfl⟩
  | succ now inductionHypothesis =>
    rw [List.take_add_one, heldAfter_append]
    cases found : commands[now]? with
    | none =>
      have absent : ∀ command, commands[now]? = some command → command.IsIdle tables := by
        simp [found]
      rw [Option.toList_none, heldAfter_nil]
      simpa only [openAt_succ_iff absent] using inductionHypothesis
    | some command =>
      rw [Option.toList_some, heldAfter_cons, heldAfter_nil]
      rcases isBare_or_opened_or_isIdle tables command with bare | ⟨body, opens⟩ | idle
      · rw [respond_of_isBare bare]
        refine ⟨?_, fun _ => rfl⟩
        intro opener body openAt
        obtain rfl := openAt.eq_of_not_isIdle found fun idle => idle.1 bare
        obtain ⟨other, isOther, opens⟩ := openAt.opens
        rw [found, Option.some.injEq] at isOther
        rw [← isOther, bare.opened?_eq_none] at opens
        simp at opens
      · rw [respond_of_opened opens]
        constructor
        · intro opener other openAt
          obtain rfl := openAt.eq_of_not_isIdle found fun idle => by simp [idle.2] at opens
          obtain ⟨same, isSame, opensSame⟩ := openAt.opens
          rw [found, Option.some.injEq] at isSame
          rw [← isSame, opens, Option.some.injEq] at opensSame
          rw [opensSame]
        · intro closed
          exact absurd (OpenAt.of_opened found opens) (closed now body)
      · have only : ∀ other, commands[now]? = some other → other.IsIdle tables := by
          intro other isOther
          rw [found, Option.some.injEq] at isOther
          exact isOther ▸ idle
        rw [respond_held_of_isIdle idle]
        simpa only [openAt_succ_iff only] using inductionHypothesis

/-- The bare heading at position `closer` closes the box that the command at position `opener`
opened. -/
def Closes (tables : Tables) (commands : List Command) (opener closer : Nat) (body : Text) :
    Prop :=
  OpenAt tables commands opener closer body ∧
    ∃ command, commands[closer]? = some command ∧ command.IsBare

/-- A box is closed at most once. -/
theorem Closes.unique {tables : Tables} {commands : List Command} {opener first second : Nat}
    {firstBody secondBody : Text} (firstCloses : Closes tables commands opener first firstBody)
    (secondCloses : Closes tables commands opener second secondBody) : first = second := by
  obtain ⟨firstOpen, firstCommand, firstFound, firstBare⟩ := firstCloses
  obtain ⟨secondOpen, secondCommand, secondFound, secondBare⟩ := secondCloses
  rcases Nat.lt_trichotomy first second with before | same | after
  · exact absurd firstBare
      (secondOpen.undisturbed first firstCommand firstOpen.earlier before firstFound).1
  · exact same
  · exact absurd secondBare
      (firstOpen.undisturbed second secondCommand secondOpen.earlier after secondFound).1

end Command

/-! ## Headings in their places -/

/-- A command heading of a page: its source, the command that it spells and what stands in for
it. -/
structure CommandHeading where
  source : Text
  command : Command
  fragment : Text

namespace CommandHeading

/-- The headings among the pieces of a page with what stands in for them. -/
def place (tables : Tables) :
    Option Text → List (Piece (Text × Command)) → List (Piece CommandHeading)
  | _, [] => []
  | held, .plain c :: rest => .plain c :: place tables held rest
  | held, .item (source, command) :: rest =>
    let response := command.respond tables held
    .item ⟨source, command, response.fragment⟩ :: place tables response.held rest

variable (tables : Tables)

theorem expand_source_place (held : Option Text) (pieces : List (Piece (Text × Command))) :
    (place tables held pieces).flatMap (Piece.expand source) =
      pieces.flatMap (Piece.expand Prod.fst) := by
  induction pieces generalizing held with
  | nil => rfl
  | cons piece pieces inductionHypothesis =>
    cases piece with
    | plain c => simp [place, inductionHypothesis]
    | item value => simp [place, inductionHypothesis]

theorem map_command_place (held : Option Text) (pieces : List (Piece (Text × Command))) :
    (place tables held pieces).map (Piece.map command) = pieces.map (Piece.map Prod.snd) := by
  induction pieces generalizing held with
  | nil => rfl
  | cons piece pieces inductionHypothesis =>
    cases piece with
    | plain c => simp [place, inductionHypothesis]
    | item value => simp [place, inductionHypothesis]

theorem expand_fragment_place (held : Option Text) (pieces : List (Piece (Text × Command))) :
    (place tables held pieces).flatMap (Piece.expand fragment) =
      (respondAll tables held (pieces.map (Piece.map Prod.snd))).flatMap
        (Piece.expand Response.fragment) := by
  induction pieces generalizing held with
  | nil => rfl
  | cons piece pieces inductionHypothesis =>
    cases piece with
    | plain c => simp [place, respondAll, inductionHypothesis]
    | item value => simp [place, respondAll, inductionHypothesis]

/-- What stands in for a heading is the response to its command after the commands before it. -/
theorem fragment_eq_of_place {held : Option Text} {pieces : List (Piece (Text × Command))}
    {position : Nat} {heading : CommandHeading}
    (found : (Piece.items (place tables held pieces))[position]? = some heading) :
    heading.fragment =
      (heading.command.respond tables (Command.heldAfter tables held
        (((Piece.items (place tables held pieces)).map command).take position))).fragment := by
  induction pieces generalizing held position with
  | nil => simp [place] at found
  | cons piece pieces inductionHypothesis =>
    cases piece with
    | plain c => exact inductionHypothesis found
    | item value =>
      cases position with
      | zero =>
        simp only [place, Piece.items_item_cons, List.getElem?_cons_zero, Option.some.injEq]
          at found
        simp [← found]
      | succ position => exact inductionHypothesis found

end CommandHeading

/-- What follows the first body mark of a box; nothing for a box without one. -/
def IsClosingPart (body closing : Text) : Prop :=
  (∃ opening, body = opening ++ bodyMark ++ closing ∧
    Text.hasPart bodyMark (opening ++ bodyMark.dropLast) = false) ∨
  (Text.hasPart bodyMark body = false ∧ closing = [])

theorem isClosingPart_splitBox (body : Text) : IsClosingPart body (splitBox body).2 := by
  unfold splitBox
  cases cut : Text.cutAt? bodyMark body with
  | none => exact .inr ⟨Text.hasPart_eq_false_iff.2 cut, rfl⟩
  | some parts =>
    exact .inl ⟨parts.1, Text.eq_of_cutAt? cut, Text.first_of_cutAt? (by decide) cut⟩

/-- The command headings of a page in their places. A bare heading gives the closing part of the
box that the earlier headings leave open, and nothing if they leave none open. A box is closed at
most once. A heading that is neither bare nor names a known box has no part in this, and all the
rest of the page stays as it stands. -/
theorem carryOutCommands_boxes (tables : Tables) (html : Text) :
    let commands := Text.items Command.command? html
    ∃ page : List (Piece CommandHeading),
      page.map (Piece.map CommandHeading.command) = Text.pieces Command.command? html ∧
      page.flatMap (Piece.expand CommandHeading.source) = html ∧
      page.flatMap (Piece.expand CommandHeading.fragment) = (carryOutCommands tables html).html ∧
      (∀ position heading, (Piece.items page)[position]? = some heading →
        (∃ held, heading.fragment = (heading.command.respond tables held).fragment) ∧
        (heading.command.IsBare →
          (∀ opener body, Command.Closes tables commands opener position body →
            IsClosingPart body heading.fragment) ∧
          ((¬ ∃ opener body, Command.Closes tables commands opener position body) →
            heading.fragment = []))) ∧
      (∀ opener first second firstBody secondBody,
        Command.Closes tables commands opener first firstBody →
        Command.Closes tables commands opener second secondBody → first = second) ∧
      (∀ (command : Command) (held : Option Text),
        command.sigil = .expand ∨
          command.word ≠ [] ∧ tables.boxes.find? command.name = none →
        (command.respond tables held).held = held) := by
  intro commands
  let pieces := Text.pieces (Text.withSource Command.command?) html
  let page := CommandHeading.place tables none pieces
  have isRead : page.map (Piece.map CommandHeading.command) = Text.pieces Command.command? html :=
    (CommandHeading.map_command_place tables none pieces).trans
      (Text.map_pieces_withSource Command.command?_proper html)
  have sameCommands : (Piece.items page).map CommandHeading.command = commands := by
    rw [← Piece.items_map, isRead]
    rfl
  refine ⟨page, isRead, ?_, ?_, ?_, ?_, ?_⟩
  · exact (CommandHeading.expand_source_place tables none pieces).trans
      (Text.expand_pieces_withSource Command.command?_proper html)
  · rw [CommandHeading.expand_fragment_place, Text.map_pieces_withSource Command.command?_proper]
    rfl
  · intro position heading found
    have fragment := CommandHeading.fragment_eq_of_place tables found
    refine ⟨⟨_, fragment⟩, ?_⟩
    intro bare
    rw [sameCommands, Command.respond_of_isBare bare] at fragment
    have isCommand : commands[position]? = some heading.command := by
      rw [← sameCommands, List.getElem?_map, found]
      rfl
    constructor
    · rintro opener body ⟨openAt, -⟩
      rw [fragment, (Command.heldAfter_take tables commands position).1 opener body openAt]
      exact isClosingPart_splitBox body
    · intro closed
      have noneOpen : ∀ opener body, ¬ Command.OpenAt tables commands opener position body :=
        fun opener body openAt => closed ⟨opener, body, openAt, heading.command, isCommand, bare⟩
      rw [fragment, (Command.heldAfter_take tables commands position).2 noneOpen]
      rfl
  · intro opener first second firstBody secondBody firstCloses secondCloses
    exact firstCloses.unique secondCloses
  · intro command held idle
    exact Command.respond_held_of_isIdle (Command.isIdle_iff.2 idle) held

end Folio
