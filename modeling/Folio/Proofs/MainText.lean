import Folio.Proofs.Document
import Folio.Proofs.Register
import Folio.Proofs.Region

/-!
# Text outside boxes stays in the main region

The marks of an aside are put into a page by two headings: the one that opens the aside brings the
begin mark, and the bare heading that closes it brings the end mark. A box that is opened while an
aside is open takes its place, and then the end mark is never brought. What follows belongs to the
main region all the same, as long as no other aside brings an end mark later.

The invariant looks at the text since the last end mark. If it holds no begin mark, nothing after
it can become part of an aside that began earlier. If it holds no end mark, and none follows, no
aside can reach out of it.
-/

namespace Folio

namespace AsideSpan

open Text

/-- No mark of an aside starts in a text: it holds none and does not end within one. -/
structure Quiet (text : Text) : Prop where
  noBegin : Inert (dropLead? beginLead) text
  noEnd : Inert (dropLead? asideEnd) text

theorem quiet_of_not_mem {text : Text} (noTag : '<' ∉ text) : Quiet text := by
  constructor
  · rw [beginLead_eq]
    exact inert_of_not_mem noTag
  · rw [asideEnd_eq]
    exact inert_of_not_mem noTag

theorem Quiet.append {first second : Text} (firstQuiet : Quiet first) (secondQuiet : Quiet second) :
    Quiet (first ++ second) :=
  ⟨firstQuiet.noBegin.append secondQuiet.noBegin, firstQuiet.noEnd.append secondQuiet.noEnd⟩

/-- A tag is quiet: no mark starts with `<` and something other than an exclamation mark. -/
theorem quiet_tag {c : Char} (other : c ≠ '!') {text : Text} (noTag : '<' ∉ c :: text) :
    Quiet ('<' :: c :: text) := by
  have rest := quiet_of_not_mem noTag
  constructor
  · refine inert_cons.2 ⟨?_, rest.noBegin⟩
    intro following
    rw [beginLead_eq]
    simp [Ne.symm other]
  · refine inert_cons.2 ⟨?_, rest.noEnd⟩
    intro following
    rw [asideEnd_eq]
    simp [Ne.symm other]

/-- A notice brings no mark, whatever it is about. -/
theorem quiet_fragment (notice : Notice) : Quiet notice.fragment := by
  have message : '<' ∉ Entity.quote notice.message := by
    intro member
    have kept : '<' ∈ markup (Entity.quote notice.message) := List.mem_filter.2 ⟨member, rfl⟩
    rw [Entity.markup_quote] at kept
    exact List.not_mem_nil kept
  have opening : "<div class='ui negative message'>".toList =
      '<' :: 'd' :: "iv class='ui negative message'>".toList := by simp
  have closing : "</div>".toList = '<' :: '/' :: "div>".toList := by simp
  unfold Notice.fragment
  rw [opening, closing]
  apply Quiet.append
  · exact (quiet_tag (by decide) (by decide)).append (quiet_of_not_mem message)
  · exact quiet_tag (by decide) (by decide)

/-! ## The text since the last end mark -/

/-- A text that is empty or ends with an end mark. -/
def Closed (text : Text) : Prop :=
  text = [] ∨ ∃ inside, text = inside ++ asideEnd

/-- A mark does not start anywhere after the last end mark of a text. -/
def Settled (mark text : Text) : Prop :=
  ∃ closed rest, text = closed ++ rest ∧ Closed closed ∧ Inert (dropLead? mark) rest

theorem settled_nil (mark : Text) : Settled mark [] :=
  ⟨[], [], rfl, .inl rfl, trivial⟩

theorem Settled.append {mark text rest : Text} (settled : Settled mark text)
    (inert : Inert (dropLead? mark) rest) : Settled mark (text ++ rest) := by
  obtain ⟨closed, plain, rfl, isClosed, isInert⟩ := settled
  exact ⟨closed, plain ++ rest, List.append_assoc .., isClosed, isInert.append inert⟩

theorem settled_append_asideEnd (mark text inside : Text) :
    Settled mark (text ++ (inside ++ asideEnd)) :=
  ⟨text ++ inside ++ asideEnd, [], by simp, .inr ⟨text ++ inside, rfl⟩, trivial⟩

theorem pieces_append_of_closed {text : Text} (closed : Closed text) (rest : Text) :
    pieces span? (text ++ rest) = pieces span? text ++ pieces span? rest := by
  rcases closed with rfl | ⟨inside, rfl⟩
  · simp
  · exact pieces_append_asideEnd inside rest

/-- What follows a text without a begin mark after its last end mark is read apart. -/
theorem Settled.pieces_append_of_beginLead {text : Text} (settled : Settled beginLead text)
    (rest : Text) : pieces span? (text ++ rest) = pieces span? text ++ pieces span? rest := by
  obtain ⟨closed, plain, rfl, isClosed, inert⟩ := settled
  have alone := pieces_append_of_inert (inert_span? inert) []
  rw [List.append_nil, pieces_nil, List.append_nil] at alone
  rw [List.append_assoc, pieces_append_of_closed isClosed, pieces_append_of_closed isClosed,
    pieces_append_of_inert (inert_span? inert), alone, List.append_assoc]

/-- A text without an end mark is read apart from what comes before it. -/
theorem Settled.pieces_append_of_asideEnd {text : Text} (settled : Settled asideEnd text)
    {rest : Text} (noEnd : hasPart asideEnd rest = false) :
    pieces span? (text ++ rest) = pieces span? text ++ pieces span? rest := by
  obtain ⟨closed, plain, rfl, isClosed, inert⟩ := settled
  have whole : hasPart asideEnd (plain ++ rest) = false := by
    rw [hasPart_eq_false_iff] at noEnd ⊢
    rw [cutAt?_append_of_inert inert, noEnd]
    rfl
  rw [List.append_assoc, pieces_append_of_closed isClosed, pieces_append_of_closed isClosed,
    pieces_of_noEnd whole, pieces_of_noEnd (inert.hasPart asideEnd_ne_nil),
    pieces_of_noEnd noEnd, List.map_append, List.append_assoc]

end AsideSpan

namespace Command

open AsideSpan

/-! ## The bodies of asides -/

/-- A body that stands between the marks of a region. -/
def IsAsideBody (body : Text) : Prop :=
  ∃ name own, body = asideBegin name ++ own ++ asideEnd

/-- What stands in for a heading that opens a box. -/
def openingPart (command : Command) (body : Text) : Text :=
  Text.replaceAll "@ARGS@".toList command.value (splitBox body).1

/-- A body brings no mark of its own: the parts of a box are quiet, and what comes before the
content of an aside brings no end mark. -/
structure OpensQuietly (command : Command) (body : Text) : Prop where
  ofBox : ¬ IsAsideBody body → Quiet (command.openingPart body) ∧ Quiet (splitBox body).2
  ofAside : IsAsideBody body → Text.hasPart bodyMark body = true →
    Text.Inert (Text.dropLead? asideEnd) (command.openingPart body)

theorem not_mem_asideEnd (mark : Text) (ends : mark.getLast? = some '@') :
    ∀ last, mark.getLast? = some last → last ∉ asideEnd := by
  intro last isLast
  obtain rfl : '@' = last := by simpa [ends] using isLast
  decide

/-- The end mark is the last of what an aside with a body mark holds back. -/
theorem exists_append_of_isAsideBody {body : Text} (isAside : IsAsideBody body)
    (marked : Text.hasPart bodyMark body = true) :
    ∃ inside, (splitBox body).2 = inside ++ asideEnd := by
  obtain ⟨name, own, rfl⟩ := isAside
  have cut := Text.cutAt?_append_of_last (by decide) (not_mem_asideEnd bodyMark rfl)
    (asideBegin name ++ own)
  rw [Text.hasPart, cut, Option.isSome_map] at marked
  obtain ⟨⟨opening, closing⟩, found⟩ := Option.isSome_iff_exists.1 marked
  exact ⟨closing, by rw [splitBox, cut, found]; rfl⟩

theorem splitBox_of_unmarked {body : Text} (unmarked : Text.hasPart bodyMark body = false) :
    splitBox body = (body, []) := by
  rw [splitBox, Text.hasPart_eq_false_iff.1 unmarked]
  rfl

/-- An aside without a body mark is closed by the heading that opens it. -/
theorem exists_openingPart_of_isAsideBody {body : Text} (isAside : IsAsideBody body)
    (unmarked : Text.hasPart bodyMark body = false) (command : Command) :
    ∃ inside, command.openingPart body = inside ++ asideEnd := by
  obtain ⟨name, own, rfl⟩ := isAside
  refine ⟨Text.replaceAll "@ARGS@".toList command.value (asideBegin name ++ own), ?_⟩
  rw [openingPart, splitBox_of_unmarked unmarked]
  exact Text.replaceAll_append_of_last (by decide) (not_mem_asideEnd _ rfl) _ _

/-! ## The last aside -/

/-- The command opens an aside. -/
def OpensAside (tables : Tables) (command : Command) (body : Text) : Prop :=
  command.opened? tables = some body ∧ IsAsideBody body

/-- The command at a position is the last that opens an aside. -/
structure LastAside (tables : Tables) (commands : List Command) (opener : Nat) (body : Text) :
    Prop where
  opens : ∃ command, commands[opener]? = some command ∧ command.OpensAside tables body
  isLast : ∀ position command other, opener < position → commands[position]? = some command →
    ¬ command.OpensAside tables other

/-- The last aside is closed by a bare heading, unless the heading that opened it has closed it
already because its body has no body mark. -/
def LastAsideClosed (tables : Tables) (commands : List Command) : Prop :=
  ∀ opener body, LastAside tables commands opener body → Text.hasPart bodyMark body = true →
    ∃ closer, Closes tables commands opener closer body

/-- A command that neither opens an aside nor closes one has not closed the last aside. -/
theorem LastAsideClosed.of_append {tables : Tables} {commands : List Command} {command : Command}
    (closed : LastAsideClosed tables (commands ++ [command]))
    (opensNone : ∀ body, ¬ command.OpensAside tables body)
    (closesNone : command.IsBare → ∀ opener body,
      OpenAt tables commands opener commands.length body → IsAsideBody body →
        Text.hasPart bodyMark body = false) : LastAsideClosed tables commands := by
  intro opener body lastAside marked
  obtain ⟨⟨opening, found, opens⟩, isLast⟩ := lastAside
  have inside : opener < commands.length := (List.getElem?_eq_some_iff.1 found).1
  have stillLast : LastAside tables (commands ++ [command]) opener body := by
    refine ⟨⟨opening, (List.getElem?_append_left inside).trans found, opens⟩, ?_⟩
    intro position other otherBody after isOther
    by_cases early : position < commands.length
    · rw [List.getElem?_append_left early] at isOther
      exact isLast position other otherBody after isOther
    · rw [List.getElem?_append_right (by omega)] at isOther
      obtain rfl : command = other := by
        rcases List.getElem?_eq_some_iff.1 isOther with ⟨short, same⟩
        simpa using same
      exact opensNone otherBody
  obtain ⟨closer, openAt, bare, isCloser, isBare⟩ := closed opener body stillLast marked
  have bound : closer < (commands ++ [command]).length := (List.getElem?_eq_some_iff.1 isCloser).1
  rw [List.length_append, List.length_singleton] at bound
  rw [openAt_append_iff (by omega)] at openAt
  by_cases early : closer < commands.length
  · rw [List.getElem?_append_left early] at isCloser
    exact ⟨closer, openAt, bare, isCloser, isBare⟩
  · obtain rfl : closer = commands.length := by omega
    obtain rfl : command = bare := by simpa using isCloser
    rw [closesNone isBare opener body openAt opens.2] at marked
    simp at marked

/-- An aside that is opened last and holds its end mark back is not closed. -/
theorem not_lastAsideClosed_of_opensAside {tables : Tables} {commands : List Command}
    {command : Command} {body : Text} (opens : command.OpensAside tables body)
    (marked : Text.hasPart bodyMark body = true) :
    ¬ LastAsideClosed tables (commands ++ [command]) := by
  intro closed
  have lastAside : LastAside tables (commands ++ [command]) commands.length body := by
    refine ⟨⟨command, by simp, opens⟩, ?_⟩
    intro position other otherBody after isOther
    have := (List.getElem?_eq_some_iff.1 isOther).1
    rw [List.length_append, List.length_singleton] at this
    omega
  obtain ⟨closer, openAt, bare, isCloser, -⟩ := closed _ _ lastAside marked
  have bound := (List.getElem?_eq_some_iff.1 isCloser).1
  have := openAt.earlier
  rw [List.length_append, List.length_singleton] at bound
  omega

/-! ## What a heading brings -/

/-- What a heading after other commands does to the marks of a page. -/
inductive MarkEffect (tables : Tables) (commands : List Command) (command : Command)
    (fragment : Text) : Prop where
  /-- It brings an end mark as the last thing. -/
  | ends (inside : Text) (last : fragment = inside ++ asideEnd)
  /-- It opens an aside, which is not closed yet. -/
  | opens (inert : Text.Inert (Text.dropLead? asideEnd) fragment)
      (notClosed : ¬ LastAsideClosed tables (commands ++ [command]))
  /-- It brings no mark, and the last aside is as it was before. -/
  | keeps (isQuiet : Quiet fragment)
      (unchanged : LastAsideClosed tables (commands ++ [command]) →
        LastAsideClosed tables commands)

variable {tables : Tables} {commands : List Command} {command : Command}

theorem quiet_nil : Quiet [] :=
  quiet_of_not_mem List.not_mem_nil

/-- A bare heading gives the end mark of the aside that is open; from any other open box it gives
a quiet text, and without one it gives nothing. -/
theorem markEffect_of_isBare (bare : command.IsBare)
    (quiet : ∀ other ∈ commands, ∀ body, other.opened? tables = some body →
      other.OpensQuietly body) :
    MarkEffect tables commands command ((heldAfter tables none commands).getD []) := by
  have held := heldAfter_take tables commands commands.length
  rw [List.take_length] at held
  have opensNone : ∀ body, ¬ command.OpensAside tables body := by
    rintro body ⟨opens, -⟩
    rw [bare.opened?_eq_none] at opens
    simp at opens
  by_cases closesAside : ∃ opener body, OpenAt tables commands opener commands.length body ∧
      IsAsideBody body ∧ Text.hasPart bodyMark body = true
  · obtain ⟨opener, body, openAt, isAside, marked⟩ := closesAside
    obtain ⟨inside, closing⟩ := exists_append_of_isAsideBody isAside marked
    apply MarkEffect.ends inside
    rw [held.1 opener body openAt, Option.getD_some, closing]
  · have closesNone : ∀ opener body, OpenAt tables commands opener commands.length body →
        IsAsideBody body → Text.hasPart bodyMark body = false := by
      intro opener body openAt isAside
      rw [← Bool.not_eq_true]
      exact fun marked => closesAside ⟨opener, body, openAt, isAside, marked⟩
    refine .keeps ?_ fun closed => closed.of_append opensNone fun _ => closesNone
    by_cases isOpen : ∃ opener body, OpenAt tables commands opener commands.length body
    · obtain ⟨opener, body, openAt⟩ := isOpen
      rw [held.1 opener body openAt, Option.getD_some]
      by_cases isAside : IsAsideBody body
      · rw [splitBox_of_unmarked (closesNone opener body openAt isAside)]
        exact quiet_nil
      · obtain ⟨opening, found, opens⟩ := openAt.opens
        exact ((quiet opening (List.mem_of_getElem? found) body opens).ofBox isAside).2
    · have noneOpen : ∀ opener body, ¬ OpenAt tables commands opener commands.length body :=
        fun opener body openAt => isOpen ⟨opener, body, openAt⟩
      rw [held.2 noneOpen]
      exact quiet_nil

/-- A heading that opens a box brings a mark only if the box is an aside. -/
theorem markEffect_of_opened {body : Text} (opens : command.opened? tables = some body)
    (quiet : command.OpensQuietly body) :
    MarkEffect tables commands command (command.openingPart body) := by
  by_cases isAside : IsAsideBody body
  · cases marked : Text.hasPart bodyMark body with
    | false =>
      obtain ⟨inside, last⟩ := exists_openingPart_of_isAsideBody isAside marked command
      exact .ends inside last
    | true =>
      exact .opens (quiet.ofAside isAside marked)
        (not_lastAsideClosed_of_opensAside ⟨opens, isAside⟩ marked)
  · have opensNone : ∀ other, ¬ command.OpensAside tables other := by
      rintro other ⟨opensOther, isOther⟩
      obtain rfl : body = other := Option.some.inj (opens.symm.trans opensOther)
      exact isAside isOther
    have notBare : ¬ command.IsBare := by
      intro bare
      rw [bare.opened?_eq_none] at opens
      simp at opens
    exact .keeps (quiet.ofBox isAside).1
      fun closed => closed.of_append opensNone fun bare => absurd bare notBare

/-- A `~` heading that names no box brings a notice. -/
theorem markEffect_of_isIdle (idle : command.IsIdle tables) (notice : Notice) :
    MarkEffect tables commands command notice.fragment := by
  have opensNone : ∀ body, ¬ command.OpensAside tables body := by
    rintro body ⟨opens, -⟩
    rw [idle.2] at opens
    simp at opens
  exact .keeps (quiet_fragment notice)
    fun closed => closed.of_append opensNone fun bare => absurd bare idle.1

theorem markEffect_respond (isBox : command.sigil = .box)
    (quiet : ∀ other ∈ commands ++ [command], ∀ body, other.opened? tables = some body →
      other.OpensQuietly body) :
    MarkEffect tables commands command
      (command.respond tables (heldAfter tables none commands)).fragment := by
  rcases isBare_or_opened_or_isIdle tables command with bare | ⟨body, opens⟩ | idle
  · rw [respond_of_isBare bare]
    exact markEffect_of_isBare bare fun other member =>
      quiet other (List.mem_append_left _ member)
  · rw [respond_of_opened opens]
    exact markEffect_of_opened opens (quiet command (by simp) body opens)
  · rw [respond_of_unknown isBox idle]
    exact markEffect_of_isIdle idle _

end Command

namespace PagePart

open AsideSpan Command

/-- A part brings no mark but those of declared asides: a text is quiet, and a heading is bare or
names a box, which is quiet if it is known. -/
def BringsNoMark (tables : Tables) : PagePart → Prop
  | .plain text => Quiet text
  | .heading _ command => command.sigil = .box ∧
      ∀ body, command.opened? tables = some body → command.OpensQuietly body

variable {tables : Tables} {parts : List PagePart}

theorem bringsNoMark_opening {name argument : Text}
    (quiet : ∀ body, tables.boxes.find? (Entity.requote name) = some body →
      (⟨.box, name, argument⟩ : Command).OpensQuietly body) :
    (opening name argument).BringsNoMark tables := by
  refine ⟨rfl, ?_⟩
  intro body opens
  unfold opened? at opens
  split at opens
  · exact quiet body opens
  · simp at opens

theorem bringsNoMark_closing : closing.BringsNoMark tables := by
  refine ⟨rfl, ?_⟩
  intro body opens
  simp [opened?] at opens

theorem opensQuietly_of_mem (fits : ∀ part ∈ parts, part.BringsNoMark tables)
    {command : Command} (member : command ∈ commands parts) :
    ∀ body, command.opened? tables = some body → command.OpensQuietly body := by
  obtain ⟨part, isPart, commanded⟩ := List.mem_filterMap.1 member
  cases part with
  | plain text => simp [command?] at commanded
  | heading source other =>
    obtain rfl : other = command := Option.some.inj commanded
    exact (fits _ isPart).2

/-- Since the last end mark that parts have brought there is no beginning of an end mark, and if
the last aside is closed, no begin mark either. -/
theorem settled_emitted (fits : ∀ part ∈ parts, part.BringsNoMark tables) :
    Settled asideEnd (emitted tables none parts) ∧
      (LastAsideClosed tables (commands parts) →
        Settled beginLead (emitted tables none parts)) := by
  induction parts using List.reverseRecOn with
  | nil => exact ⟨settled_nil _, fun _ => settled_nil _⟩
  | append_singleton parts part inductionHypothesis =>
    have earlier : ∀ part ∈ parts, part.BringsNoMark tables :=
      fun part member => fits part (List.mem_append_left _ member)
    obtain ⟨settledEnd, settledBegin⟩ := inductionHypothesis earlier
    have last := fits part (by simp)
    rw [emitted_append]
    cases part with
    | plain text =>
      simp only [emitted_plain_cons, emitted_nil, List.append_nil, commands_append,
        commands_plain_cons]
      exact ⟨settledEnd.append last.noEnd,
        fun closed => (settledBegin (by simpa [commands] using closed)).append last.noBegin⟩
    | heading source command =>
      have quiet : ∀ other ∈ commands parts ++ [command], ∀ body,
          other.opened? tables = some body → other.OpensQuietly body := by
        intro other member
        exact opensQuietly_of_mem fits (by simpa [commands, command?] using member)
      have effect := markEffect_respond last.1 quiet
      have whole : commands (parts ++ [.heading source command]) = commands parts ++ [command] := by
        simp [commands, command?]
      simp only [emitted_heading_cons, emitted_nil, List.append_nil, whole]
      cases effect with
      | ends inside ends =>
        rw [ends]
        exact ⟨settled_append_asideEnd _ _ _, fun _ => settled_append_asideEnd _ _ _⟩
      | opens inert notClosed =>
        exact ⟨settledEnd.append inert, fun closed => absurd closed notClosed⟩
      | keeps isQuiet unchanged =>
        exact ⟨settledEnd.append isQuiet.noEnd,
          fun closed => (settledBegin (unchanged closed)).append isQuiet.noBegin⟩

/-- After a bare heading no box is open, and none is at the start of a page. -/
theorem heldAfter_of_getLast?
    (outside : ∀ command, (commands parts).getLast? = some command → command.IsBare) :
    heldAfter tables none (commands parts) = none := by
  rcases List.eq_nil_or_concat (commands parts) with empty | ⟨earlier, last, split⟩
  · rw [empty]
    rfl
  · rw [split, List.concat_eq_append] at outside ⊢
    have bare := outside last (by simp)
    rw [heldAfter_append, heldAfter_cons, respond_of_isBare bare]
    rfl

/-- The page around a text that is outside of all boxes is read apart from it. -/
theorem pieces_around_text {before after : List PagePart}
    (fits : ∀ part ∈ before, part.BringsNoMark tables)
    (outside : ∀ command, (commands before).getLast? = some command → command.IsBare)
    (settled : LastAsideClosed tables (commands before) ∨
      Text.hasPart asideEnd (emitted tables none after) = false)
    {html segment : Text} (read : IsReadAs html (before ++ .plain segment :: after))
    (isQuiet : Quiet segment) :
    Text.pieces span? (carryOutCommands tables html).html =
      Text.pieces span? (emitted tables none before) ++
        (segment.map Piece.plain ++ Text.pieces span? (emitted tables none after)) := by
  obtain ⟨settledEnd, settledBegin⟩ := settled_emitted fits
  rw [html_carryOutCommands read, emitted_append, heldAfter_of_getLast? outside,
    emitted_plain_cons, ← Text.pieces_append_of_inert (inert_span? isQuiet.noBegin)]
  rcases settled with closed | noEnd
  · exact (settledBegin closed).pieces_append_of_beginLead _
  · apply settledEnd.pieces_append_of_asideEnd
    rw [Text.hasPart_eq_false_iff] at noEnd ⊢
    rw [Text.cutAt?_append_of_inert isQuiet.noEnd, noEnd]
    rfl

end PagePart

open PagePart in
/-- Text that stands after a bare heading or at the start of a page, before any other `~` heading,
stays in the main region, and no other region gets any of it: whatever the text is, the registers
are the same around it. The last aside before it has to be closed before another box takes its
place, or no end mark may come after it. -/
theorem main_text_kept {tables : Tables} {before after : List PagePart}
    (fits : ∀ part ∈ before, part.BringsNoMark tables)
    (outside : ∀ command, (commands before).getLast? = some command → command.IsBare)
    (settled : Command.LastAsideClosed tables (commands before) ∨
      Text.hasPart asideEnd (emitted tables none after) = false) :
    ∃ left right others, (∀ entry ∈ others, entry.1 ≠ mainRegion) ∧
      ∀ html segment, IsReadAs html (before ++ .plain segment :: after) →
        AsideSpan.Quiet segment →
        (routeRegions (carryOutCommands tables html).html).entries =
          (mainRegion, left ++ segment ++ right) :: others := by
  let first := emitted tables none before
  let last := emitted tables none after
  refine ⟨Text.substitute AsideSpan.span? AsideSpan.replacement first,
    Text.substitute AsideSpan.span? AsideSpan.replacement last,
    Registers.collected (Text.items AsideSpan.span? first ++ Text.items AsideSpan.span? last),
    ?_, ?_⟩
  · intro entry member
    obtain ⟨name, isRegion, rfl⟩ := List.mem_map.1 member
    exact (AsideSpan.mem_regions.1 isRegion).1
  · intro html segment read isQuiet
    have pieces := pieces_around_text fits outside settled read isQuiet
    have main : Text.substitute AsideSpan.span? AsideSpan.replacement
        (carryOutCommands tables html).html =
          Text.substitute AsideSpan.span? AsideSpan.replacement first ++ segment ++
            Text.substitute AsideSpan.span? AsideSpan.replacement last := by
      simp only [Text.substitute, pieces, List.flatMap_append, Piece.flatMap_expand_map_plain,
        List.append_assoc, first, last]
    have spans : Text.items AsideSpan.span? (carryOutCommands tables html).html =
        Text.items AsideSpan.span? first ++ Text.items AsideSpan.span? last := by
      have plain := Piece.items_map_plain (α := AsideSpan) segment
      simp only [Piece.items] at plain
      simp only [Text.items, pieces, List.filterMap_append, plain, List.nil_append, first, last]
    rw [entries_routeRegions, main, spans]

open PagePart in
/-- Text between an aside that is closed and another aside, with boxes known and unknown. -/
theorem main_text_kept_between_asides :
    let tables := Defaults.empty.tables.declareAll
      [.ofBody .aside "note".toList "<b>@ARGS@</b>@BODY@".toList,
        .ofBody .box "card".toList "[@BODY@]".toList]
    let html := ("Start <h1>~note x &amp; y</h1>one<h1>~</h1>kept<h1>~card</h1>two<h1>~</h1>" ++
      "<h1>~nothing</h1><h1>~note</h1>three<h1>~</h1>").toList
    ∃ left right others, (∀ entry ∈ others, entry.1 ≠ mainRegion) ∧
      (routeRegions (carryOutCommands tables html).html).entries =
        (mainRegion, left ++ "kept".toList ++ right) :: others := by
  intro tables html
  let before : List PagePart := [plain "Start ".toList,
    opening "note".toList "x &amp; y".toList, plain "one".toList, closing]
  let after : List PagePart := [opening "card".toList [], plain "two".toList, closing,
    opening "nothing".toList [], opening "note".toList [], plain "three".toList, closing]
  let note := asideBegin "note".toList ++ "<b>@ARGS@</b>@BODY@".toList ++ asideEnd
  have known : tables.boxes.find? "note".toList = some note := by decide +kernel
  have fits : ∀ part ∈ before, part.BringsNoMark tables := by
    intro part member
    simp only [before, List.mem_cons, List.not_mem_nil, or_false] at member
    rcases member with rfl | rfl | rfl | rfl
    · exact AsideSpan.quiet_of_not_mem (by decide)
    · apply bringsNoMark_opening
      intro body found
      obtain rfl : note = body := Option.some.inj (known.symm.trans found)
      exact ⟨fun notAside => absurd ⟨_, _, rfl⟩ notAside, fun _ _ => by decide +kernel⟩
    · exact AsideSpan.quiet_of_not_mem (by decide)
    · exact bringsNoMark_closing
  have outside : ∀ command, (commands before).getLast? = some command → command.IsBare := by
    intro command last
    obtain rfl : (⟨.box, [], []⟩ : Command) = command := Option.some.inj last
    exact ⟨rfl, rfl⟩
  have closed : Command.LastAsideClosed tables (commands before) := by
    rintro opener body ⟨⟨command, found, opens⟩, -⟩ -
    have two : commands before = [⟨.box, "note".toList, "x &amp; y".toList⟩, ⟨.box, [], []⟩] :=
      rfl
    match opener with
    | 0 =>
      refine ⟨1, ⟨by decide, ⟨command, found, opens.1⟩, ?_⟩, ⟨.box, [], []⟩, rfl, rfl, rfl⟩
      intro position other after before
      omega
    | 1 =>
      obtain rfl : (⟨.box, [], []⟩ : Command) = command := Option.some.inj found
      have opened := opens.1
      simp [Command.opened?] at opened
    | _ + 2 =>
      rw [two] at found
      simp at found
  have read : IsReadAs html (before ++ plain "kept".toList :: after) := by
    unfold IsReadAs
    decide +kernel
  obtain ⟨left, right, others, notMain, entries⟩ :=
    @main_text_kept tables before after fits outside (.inl closed)
  exact ⟨left, right, others, notMain,
    entries html "kept".toList read (AsideSpan.quiet_of_not_mem (by decide))⟩

/-- Without its conditions the text is lost: in the region of an aside that another box replaced
while it was open, and in regions whose begin mark comes from two texts with a heading between
them or from the argument of a heading. -/
theorem main_text_taken_by_open_asides :
    let template := ("<aside data-name='note' class='aside'>@BODY@</aside>" ++
      "<aside data-name='card' class='box'>@BODY@</aside>" ++
      "<aside data-name='remark' class='box'><!-- @ARGS@ -->@BODY@</aside>").toList
    let tables := Defaults.empty.tables.declareAll (harvest template).declarations
    let registers (page : String) :=
      (routeRegions (carryOutCommands tables page.toList).html).entries
    registers ("<h1>~note</h1>n1<h1>~card</h1>c1<h1>~</h1>lost" ++ "<h1>~note</h1>n2<h1>~</h1>") =
        [("main".toList, "<!-- aside -->".toList),
          ("note".toList, "n1c1lost<!-- BEGIN-ASIDE note -->n2".toList)] ∧
      registers ("<!-- BEGIN-<h1>~</h1>ASIDE a -->lost" ++ "<h1>~note</h1>n<h1>~</h1>") =
        [("main".toList, "<!-- aside -->".toList),
          ("a".toList, "lost<!-- BEGIN-ASIDE note -->n".toList)] ∧
      registers ("<h1>~remark BEGIN-ASIDE a</h1>r<h1>~</h1>lost" ++ "<h1>~note</h1>n<h1>~</h1>") =
        [("main".toList, "<!-- aside -->".toList),
          ("a".toList, "rlost<!-- BEGIN-ASIDE note -->n".toList)] := by
  decide +kernel

end Folio
