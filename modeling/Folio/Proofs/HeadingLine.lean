import Folio.Proofs.Argument
import Folio.Proofs.Document

/-!
# Which headings of a page are commands

The text of a heading calls a command if it starts with a sigil after leading whitespace. Such a
heading is found whatever its neighbours are and wherever whitespace stands around the sigil, line
breaks included, but what follows the sigil and that whitespace has to stay on one line: a heading
that goes on over a line break is passed over like one without a sigil. Every heading that is found
is replaced by the response to its command, and the rest of the page is left as it is.
-/

namespace Folio

open Text

namespace Command

/-- A line break in the text of a heading comes before the heading end, so the text is not taken. -/
theorem headingText?_of_lineBreak {text : Text} (noTag : '<' ∉ text) (broken : '\n' ∈ text)
    (rest : Text) : headingText? (text ++ rest) = none := by
  induction text with
  | nil => simp at broken
  | cons c text inductionHypothesis =>
    rw [List.mem_cons, not_or] at noTag
    have missed : headingEnd? (c :: (text ++ rest)) = none := by
      simp [headingEnd?, noTag.1]
    rw [List.cons_append, headingText?, missed]
    by_cases isBreak : c = '\n'
    · simp [isBreak]
    · have later : '\n' ∈ text := by simpa [Ne.symm isBreak] using broken
      simp [isBreak, inductionHypothesis noTag.2 later]

end Command

/-- A heading of a page, by its level and its text. -/
structure PageHeading where
  level : Char
  text : Text

namespace PageHeading

/-- A heading as it is written. -/
def source (heading : PageHeading) : Text :=
  '<' :: 'h' :: heading.level :: '>' :: (heading.text ++ ['<', '/', 'h', heading.level, '>'])

/-- The text of a heading starts with a sigil after leading whitespace, and the line is what follows
the sigil and the whitespace behind it. -/
def Calls (heading : PageHeading) (sigil : Sigil) (line : Text) : Prop :=
  ∃ tail, trimStart heading.text = sigil.sign :: tail ∧ trimStart tail = line

/-- The command that a heading is read as. -/
def command? (heading : PageHeading) : Option Command :=
  match trimStart heading.text with
  | [] => none
  | sign :: tail =>
    (Sigil.ofChar? sign).bind fun sigil =>
      if '\n' ∈ trimStart tail then none else some (.ofText sigil (trimStart tail))

theorem command?_of_calls {heading : PageHeading} {sigil : Sigil} {line : Text}
    (calls : heading.Calls sigil line) :
    heading.command? = if '\n' ∈ line then none else some (.ofText sigil line) := by
  obtain ⟨tail, starts, rfl⟩ := calls
  rw [command?, starts]
  dsimp only
  rw [Sigil.ofChar?_sign, Option.bind_some]

/-- Only a heading that calls a command is read as one. -/
theorem exists_calls_of_command? {heading : PageHeading} {command : Command}
    (found : heading.command? = some command) :
    ∃ sigil line, heading.Calls sigil line ∧ '\n' ∉ line := by
  rw [command?] at found
  split at found
  · cases found
  · next sign tail starts =>
    obtain ⟨sigil, isSign, found⟩ := Option.bind_eq_some_iff.1 found
    split at found
    · cases found
    · next oneLine =>
      rw [Sigil.sign_of_ofChar? isSign] at starts
      exact ⟨sigil, trimStart tail, ⟨tail, starts, rfl⟩, oneLine⟩

/-- The conditions under which the whole of a heading is seen as one: its level is a digit and its
text holds no tag. -/
structure IsPlain (heading : PageHeading) : Prop where
  digit : Unicode.isDecimalDigit heading.level = true
  noTag : '<' ∉ heading.text

instance decidableIsPlain (heading : PageHeading) : Decidable heading.IsPlain :=
  decidable_of_iff (_ ∧ _) ⟨fun ⟨digit, noTag⟩ => ⟨digit, noTag⟩, fun plain => ⟨plain.1, plain.2⟩⟩

/-! ## A heading in a page -/

variable {heading : PageHeading}

/-- A heading is read as its command, whatever follows it, and one without a command is not read as
anything. -/
theorem command?_source_append (plain : heading.IsPlain) (rest : Text) :
    Command.command? (heading.source ++ rest) =
      heading.command?.map fun command => (command, rest) := by
  obtain ⟨level, text⟩ := heading
  obtain ⟨digit, noTag⟩ := plain
  let close : Text := '<' :: '/' :: 'h' :: level :: '>' :: rest
  have start : Command.headingStart? (source ⟨level, text⟩ ++ rest) = some (text ++ close) := by
    simp [source, close, Command.headingStart?, digit]
  have trimmed (inside : Text) : trimStart (inside ++ close) = trimStart inside ++ close :=
    trimStart_append_cons (by decide) inside _
  have noTagAfter {inside : Text} (absent : '<' ∉ inside) : '<' ∉ trimStart inside :=
    fun member => absent ((List.dropWhile_sublist _).mem member)
  rw [Command.command?, start, command?]
  simp only [Option.bind_eq_bind, Option.bind_some, trimmed]
  have noTagLeft := noTagAfter noTag
  cases left : trimStart text with
  | nil => simp [close, Sigil.ofChar?]
  | cons sign tail =>
    rw [left, List.mem_cons, not_or] at noTagLeft
    have noTagLine := noTagAfter noTagLeft.2
    cases isSign : Sigil.ofChar? sign with
    | none => simp [isSign]
    | some sigil =>
      simp only [List.cons_append, isSign, Option.bind_some, trimmed]
      by_cases broken : '\n' ∈ trimStart tail
      · rw [Command.headingText?_of_lineBreak noTagLine broken, if_pos broken]
        rfl
      · have noEnd : hasPart "</h".toList (trimStart tail) = false :=
          (inert_of_not_mem noTagLine).hasPart (by simp)
        rw [Command.headingText?_append noEnd broken, Command.headingText?_end digit, if_neg broken]
        simp

/-- A heading as a part of a page. -/
def part (heading : PageHeading) : PagePart :=
  match heading.command? with
  | some command => .heading heading.source command
  | none => .plain heading.source

theorem isRead_part (plain : heading.IsPlain) : heading.part.IsRead := by
  have read := command?_source_append plain
  rw [part]
  cases isCommand : heading.command? with
  | some command =>
    refine ⟨by simp [source], ?_⟩
    intro rest
    rw [read, isCommand]
    rfl
  | none =>
    refine inert_cons.2 ⟨?_, ?_⟩
    · intro rest
      have missed := read rest
      rwa [isCommand] at missed
    · -- Behind the first character the next tag is the heading end.
      have notBegin : heading.level ≠ '<' := by
        intro same
        exact absurd (same ▸ plain.digit) (by decide)
      have lead : Inert Command.command? ('h' :: heading.level :: '>' :: heading.text) :=
        Command.inert_command?_of_not_mem (by simp [Ne.symm notBegin, plain.noTag])
      have close : Inert Command.command? ['<', '/', 'h', heading.level, '>'] := by
        refine inert_cons.2 ⟨?_, Command.inert_command?_of_not_mem (by simp [Ne.symm notBegin])⟩
        intro rest
        simp [Command.command?, Command.headingStart?]
      exact lead.append close

/-! ## A row of headings -/

/-- What stands in the place of a heading while a box may be open. -/
def shown (tables : Tables) (held : Option Text) (heading : PageHeading) : Text :=
  match heading.command? with
  | some command => (command.respond tables held).fragment
  | none => heading.source

/-- The commands of a row of headings, in order. -/
def commands (row : List (PageHeading × Text)) : List Command :=
  row.filterMap fun entry => entry.1.command?

/-- A row of headings, each with a text after it, as parts of a page. -/
def parts (row : List (PageHeading × Text)) : List PagePart :=
  row.flatMap fun entry => [entry.1.part, .plain entry.2]

theorem emitted_parts (tables : Tables) (held : Option Text) (row : List (PageHeading × Text)) :
    PagePart.emitted tables held (parts row) =
      (row.mapIdx fun position entry =>
        entry.1.shown tables (Command.heldAfter tables held (commands (row.take position))) ++
          entry.2).flatten := by
  induction row generalizing held with
  | nil => rfl
  | cons entry row inductionHypothesis =>
    obtain ⟨heading, gap⟩ := entry
    rw [parts, List.flatMap_cons, ← parts, List.mapIdx_cons, List.flatten_cons]
    cases isCommand : heading.command? with
    | some command =>
      simp [part, shown, commands, isCommand, inductionHypothesis]
    | none =>
      simp [part, shown, commands, isCommand, inductionHypothesis]

/-- A text and a row of headings, each with a text after it. -/
def page (lead : Text) (row : List (PageHeading × Text)) : Text :=
  lead ++ row.flatMap fun entry => entry.1.source ++ entry.2

theorem document_parts (lead : Text) (row : List (PageHeading × Text)) :
    PagePart.document (.plain lead :: parts row) = page lead row := by
  rw [PagePart.document, List.flatMap_cons, parts, List.flatMap_assoc, page]
  refine congrArg (lead ++ ·) (List.flatMap_congr fun entry _ => ?_)
  obtain ⟨heading, gap⟩ := entry
  simp only [part]
  cases heading.command? <;> simp [PagePart.source]

theorem isRead_parts {lead : Text} {row : List (PageHeading × Text)} (leadIsGap : IsGap lead)
    (fits : ∀ entry ∈ row, entry.1.IsPlain ∧ IsGap entry.2) :
    ∀ part ∈ PagePart.plain lead :: parts row, part.IsRead := by
  rw [List.forall_mem_cons]
  refine ⟨PagePart.isRead_plain leadIsGap.1 leadIsGap.2, ?_⟩
  intro part member
  obtain ⟨entry, isEntry, member⟩ := List.mem_flatMap.1 member
  obtain ⟨plain, isGap⟩ := fits entry isEntry
  simp only [List.mem_cons, List.not_mem_nil, or_false] at member
  rcases member with rfl | rfl
  · exact isRead_part plain
  · exact PagePart.isRead_plain isGap.1 isGap.2

end PageHeading

/-- In a page of headings every heading that calls a command on one line is replaced by the response
to its command after the commands before it. A heading that calls a command over a line break stays
as it stands, and so do every heading that calls none and the texts between the headings. -/
theorem carryOutCommands_of_headings (tables : Tables) {lead : Text}
    {row : List (PageHeading × Text)} (leadIsGap : IsGap lead)
    (fits : ∀ entry ∈ row, entry.1.IsPlain ∧ IsGap entry.2) :
    ∃ shown : Nat → Text,
      (carryOutCommands tables (PageHeading.page lead row)).html =
        lead ++ (row.mapIdx fun position entry => shown position ++ entry.2).flatten ∧
      ∀ position heading gap, row[position]? = some (heading, gap) →
        (∀ sigil line, heading.Calls sigil line → '\n' ∉ line →
          shown position =
            ((Command.ofText sigil line).respond tables (Command.heldAfter tables none
              (PageHeading.commands (row.take position)))).fragment) ∧
        (∀ sigil line, heading.Calls sigil line → '\n' ∈ line → shown position = heading.source) ∧
        ((∀ sigil line, ¬ heading.Calls sigil line) → shown position = heading.source) := by
  let held (position : Nat) :=
    Command.heldAfter tables none (PageHeading.commands (row.take position))
  refine ⟨fun position =>
    ((row[position]?).map fun entry => entry.1.shown tables (held position)).getD [], ?_, ?_⟩
  · have read := PagePart.isReadAs_document (PageHeading.isRead_parts leadIsGap fits)
    rw [PageHeading.document_parts] at read
    rw [PagePart.html_carryOutCommands read, PagePart.emitted_plain_cons,
      PageHeading.emitted_parts]
    refine congrArg (lead ++ List.flatten ·) (List.ext_getElem? fun position => ?_)
    simp only [List.getElem?_mapIdx]
    cases row[position]? <;> rfl
  · intro position heading gap found
    simp only [found, Option.map_some, Option.getD_some, PageHeading.shown]
    refine ⟨?_, ?_, ?_⟩
    · intro sigil line calls oneLine
      rw [PageHeading.command?_of_calls calls, if_neg oneLine]
    · intro sigil line calls broken
      rw [PageHeading.command?_of_calls calls, if_pos broken]
    · intro noCall
      cases isCommand : heading.command? with
      | none => rfl
      | some command =>
        obtain ⟨sigil, line, calls, -⟩ := PageHeading.exists_calls_of_command? isCommand
        exact absurd calls (noCall sigil line)

/-- Line breaks around the sigil do not matter, and neither does a heading with one in its text that
stands between the two headings of a box. -/
theorem carryOutCommands_of_headings_around_line_breaks :
    let tables := Defaults.builtin.tables.declareAll
      [⟨.plain, "hint".toList, "[@ARGS@]".toList⟩,
       ⟨.box, "card".toList, "<div>@BODY@</div>".toList⟩]
    let row : List (PageHeading × Text) :=
      [(⟨'2', " \n@\n hint a".toList⟩, "\n".toList), (⟨'3', "~card".toList⟩, "<p>1</p>".toList),
       (⟨'1', "one\n@two".toList⟩, []), (⟨'4', "@hint b\nc".toList⟩, "<p>2</p>".toList),
       (⟨'6', "~\n".toList⟩, " > ".toList)]
    IsGap [] ∧ (∀ entry ∈ row, entry.1.IsPlain ∧ IsGap entry.2) ∧
      (carryOutCommands tables (PageHeading.page [] row)).html =
        "[a]\n<div><p>1</p><h1>one\n@two</h1><h4>@hint b\nc</h4><p>2</p></div> > ".toList := by
  intro tables row
  have leadIsGap : IsGap [] := by decide
  have fits : ∀ entry ∈ row, entry.1.IsPlain ∧ IsGap entry.2 := by decide
  refine ⟨leadIsGap, fits, ?_⟩
  obtain ⟨shown, html, places⟩ := carryOutCommands_of_headings tables leadIsGap fits
  have hint : shown 0 = "[a]".toList :=
    ((places 0 _ _ rfl).1 .expand "hint a".toList ⟨_, rfl, rfl⟩ (by decide)).trans
      (by decide +kernel)
  have opening : shown 1 = "<div>".toList :=
    ((places 1 _ _ rfl).1 .box "card".toList ⟨_, rfl, rfl⟩ (by decide)).trans (by decide +kernel)
  have plain : shown 2 = "<h1>one\n@two</h1>".toList := by
    refine ((places 2 _ _ rfl).2.2 ?_).trans (by decide)
    rintro (_ | _) line ⟨tail, starts, -⟩
    · exact absurd (List.cons.inj starts).1 (by decide)
    · exact absurd (List.cons.inj starts).1 (by decide)
  have broken : shown 3 = "<h4>@hint b\nc</h4>".toList :=
    ((places 3 _ _ rfl).2.1 .expand "hint b\nc".toList ⟨_, rfl, rfl⟩ (by decide)).trans (by decide)
  have closing : shown 4 = "</div>".toList :=
    ((places 4 _ _ rfl).1 .box [] ⟨_, rfl, rfl⟩ (by decide)).trans (by decide +kernel)
  rw [html]
  simp only [row, List.mapIdx_cons, List.mapIdx_nil, Nat.zero_add, Nat.reduceAdd, hint, opening,
    plain, broken, closing]
  decide

/-- A heading that calls a macro over a line break stays in the page. -/
theorem carryOutCommands_of_broken_heading :
    let tables := Defaults.empty.tables.declareAll [⟨.plain, "hint".toList, "X".toList⟩]
    let heading : PageHeading := ⟨'1', "@hint a\nb".toList⟩
    heading.IsPlain ∧ heading.Calls .expand "hint a\nb".toList ∧
      heading.source = "<h1>@hint a\nb</h1>".toList ∧
      ((Command.ofText .expand "hint a\nb".toList).respond tables none).fragment = "X".toList ∧
      (carryOutCommands tables heading.source).html = heading.source := by
  intro tables heading
  exact ⟨by decide, ⟨_, rfl, rfl⟩, by decide, by decide +kernel, by decide +kernel⟩

end Folio
