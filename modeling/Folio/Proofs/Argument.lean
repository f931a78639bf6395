import Folio.Proofs.Heading
import Folio.Proofs.Markup
import Mathlib.Data.List.Forall2

/-!
# Arguments cannot become markup

The argument of a command is written by the author of a page and goes into bodies that hold tags.
Wherever it goes, it goes requoted. So two pages whose command headings differ in their arguments
alone are carried out in step: every command opens or closes the same box, gives the same notice,
records a setting of the same name and is replaced by a fragment with the same characters of
markup, whatever the bodies are.
-/

namespace Folio

/-! ## Two pages in step -/

/-- Two pieces that are the same character, or are items in a relation. -/
inductive Piece.Related {α β : Type} (relation : α → β → Prop) : Piece α → Piece β → Prop
  | plain (c : Char) : Related relation (.plain c) (.plain c)
  | item {first : α} {second : β} (related : relation first second) :
      Related relation (.item first) (.item second)

theorem Piece.forall₂_related_plain {α β : Type} (relation : α → β → Prop) (text : Text) :
    List.Forall₂ (Related relation) (text.map Piece.plain) (text.map Piece.plain) := by
  induction text with
  | nil => exact .nil
  | cons c text inductionHypothesis => exact .cons (.plain c) inductionHypothesis

/-- Two commands that differ in their arguments at most. -/
def Command.SameCall (first second : Command) : Prop :=
  first.sigil = second.sigil ∧ first.word = second.word

/-- Two responses that differ in text between the characters of markup at most. -/
structure Response.SameMarkup (first second : Response) : Prop where
  fragment : markup first.fragment = markup second.fragment
  setting : first.setting.map Prod.fst = second.setting.map Prod.fst
  notice : first.notice = second.notice
  held : first.held = second.held

namespace Command

/-- An expansion has the characters of markup of its body: what is filled in holds none. -/
theorem markup_expansion (first second : Command) (body : Text) :
    markup (first.expansion body) = markup (second.expansion body) := by
  apply Placeholder.markup_fill_congr
  intro name listed
  simp only [List.mem_cons, List.not_mem_nil, or_false] at listed
  rcases listed with rfl | rfl
  · exact (Entity.markup_requote first.argument).trans
      (Entity.markup_requote second.argument).symm
  · exact (Entity.markup_requote first.word).trans (Entity.markup_requote second.word).symm

/-- Commands with different arguments are answered alike. -/
theorem SameCall.respond {first second : Command} (same : first.SameCall second)
    (tables : Tables) (held : Option Text) :
    (first.respond tables held).SameMarkup (second.respond tables held) := by
  obtain ⟨sameSigil, sameWord⟩ := same
  have sameName : first.name = second.name := congrArg Entity.requote sameWord
  have sameValue : markup first.value = markup second.value :=
    (Entity.markup_requote first.argument).trans (Entity.markup_requote second.argument).symm
  cases isSigil : second.sigil with
  | expand =>
    simp only [Command.respond, sameSigil, isSigil, respondExpand, sameName, sameWord]
    cases tables.settings.find? second.name with
    | some body => exact ⟨markup_expansion first second body, rfl, rfl, rfl⟩
    | none =>
      cases tables.macros.find? second.name with
      | some body => exact ⟨markup_expansion first second body, rfl, rfl, rfl⟩
      | none => exact ⟨rfl, rfl, rfl, rfl⟩
  | box =>
    simp only [Command.respond, sameSigil, isSigil, respondBox, sameName, sameWord]
    split
    · exact ⟨rfl, rfl, rfl, rfl⟩
    · cases tables.boxes.find? second.name with
      | some body => exact ⟨markup_replaceAll_congr sameValue _ _, rfl, rfl, rfl⟩
      | none => exact ⟨rfl, rfl, rfl, rfl⟩

end Command

/-- Pages with the same calls are carried out in step: the same box is open at each of them. -/
theorem forall₂_respondAll {tables : Tables} {first second : List (Piece Command)}
    (same : List.Forall₂ (Piece.Related Command.SameCall) first second) (held : Option Text) :
    List.Forall₂ (Piece.Related Response.SameMarkup) (respondAll tables held first)
      (respondAll tables held second) := by
  induction same generalizing held with
  | nil => exact .nil
  | cons head _ inductionHypothesis =>
    cases head with
    | plain c => exact .cons (.plain c) (inductionHypothesis held)
    | item sameCall =>
      have sameResponse := sameCall.respond tables held
      rw [respondAll, respondAll]
      refine .cons (.item sameResponse) ?_
      -- The rest of both pages is carried out with the same box open.
      rw [← sameResponse.held]
      exact inductionHypothesis _

theorem ofResponses_of_forall₂ {first second : List (Piece Response)}
    (same : List.Forall₂ (Piece.Related Response.SameMarkup) first second) :
    markup (Outcome.ofResponses first).html = markup (Outcome.ofResponses second).html ∧
      (Outcome.ofResponses first).notices = (Outcome.ofResponses second).notices ∧
      (Outcome.ofResponses first).settings.map Prod.fst =
        (Outcome.ofResponses second).settings.map Prod.fst := by
  simp only [Outcome.ofResponses, List.map_filterMap]
  induction same with
  | nil => exact ⟨rfl, rfl, rfl⟩
  | cons head _ inductionHypothesis =>
    obtain ⟨html, notices, names⟩ := inductionHypothesis
    cases head with
    | plain c =>
      refine ⟨?_, notices, names⟩
      rw [List.flatMap_cons, List.flatMap_cons, markup_append, markup_append, html]
    | @item first second sameResponse =>
      refine ⟨?_, ?_, ?_⟩
      · rw [List.flatMap_cons, List.flatMap_cons, markup_append, markup_append, html]
        exact congrArg (· ++ _) sameResponse.fragment
      · simp only [List.filterMap_cons, Piece.item?_item, Option.bind_some, sameResponse.notice,
          notices]
      · simp only [List.filterMap_cons, Piece.item?_item, Option.bind_some, sameResponse.setting,
          names]

/-! ## Headings with arguments -/

/-- A command heading with an argument after its word, or a bare one that closes a box. -/
inductive WrittenHeading where
  | call (level : Char) (sigil : Sigil) (word argument : Text)
  | bare (level : Char)

namespace WrittenHeading

/-- A heading as it is written. -/
def source : WrittenHeading → Text
  | .call level sigil word argument =>
    Command.written level sigil.sign (word ++ ' ' :: argument)
  | .bare level => Command.written level Sigil.box.sign []

/-- The command that a heading spells. -/
def command : WrittenHeading → Command
  | .call _ sigil word argument => ⟨sigil, word, Text.trimStart argument⟩
  | .bare _ => ⟨.box, [], []⟩

/-- The conditions under which a heading is read as its command: the word is one word without a
tag, and the argument stays on its line and holds no heading end. The argument may hold anything
else, other tags included. -/
def Fits : WrittenHeading → Prop
  | .call level _ word argument =>
    Unicode.isDecimalDigit level = true ∧ word ≠ [] ∧
      (∀ c ∈ word, Unicode.isBlank c = false ∧ c ≠ '<') ∧
      '\n' ∉ argument ∧ Text.hasPart "</h".toList argument = false
  | .bare level => Unicode.isDecimalDigit level = true

instance decidableFits : (heading : WrittenHeading) → Decidable heading.Fits
  | .call _ _ _ _ => inferInstanceAs (Decidable (_ ∧ _))
  | .bare _ => inferInstanceAs (Decidable (_ = _))

/-- Two headings that differ in the argument at most. -/
inductive SameButArgument : WrittenHeading → WrittenHeading → Prop
  | call (level : Char) (sigil : Sigil) (word first second : Text) :
      SameButArgument (.call level sigil word first) (.call level sigil word second)
  | bare (level : Char) : SameButArgument (.bare level) (.bare level)

theorem SameButArgument.sameCall {first second : WrittenHeading}
    (same : first.SameButArgument second) : first.command.SameCall second.command := by
  cases same with
  | call => exact ⟨rfl, rfl⟩
  | bare => exact ⟨rfl, rfl⟩

theorem Fits.readsAs {heading : WrittenHeading} (fits : heading.Fits) :
    Text.ReadsAs Command.command? heading.source heading.command := by
  cases heading with
  | call level sigil word argument =>
    obtain ⟨digit, nonempty, wordFits, oneLine, noEnd⟩ := fits
    have noBlank : ∀ c ∈ word, Unicode.isBlank c = false := fun c member => (wordFits c member).1
    have noTag : '<' ∉ word ++ [' '] := by
      simpa using fun member => (wordFits '<' member).2 rfl
    have inert : Text.Inert (Text.dropLead? "</h".toList) (word ++ [' ']) :=
      Text.inert_of_not_mem noTag
    have wordOneLine : '\n' ∉ word := fun member => absurd (noBlank _ member) (by decide)
    rw [source, command, ← Command.ofText_append_trimStart sigil noBlank]
    apply Command.readsAs_written_of_absent digit sigil.ofChar?_sign
    · rwa [List.append_cons, Text.hasPart_append_of_inert inert]
    · simp [wordOneLine, oneLine]
    · intro c head
      cases word with
      | nil => exact absurd rfl nonempty
      | cons d word =>
        obtain rfl : d = c := by simpa using head
        exact noBlank d List.mem_cons_self
  | bare level =>
    exact Command.readsAs_written_of_absent fits rfl rfl (by simp) (by simp)

end WrittenHeading

/-- A text in which no heading starts, whatever follows it. -/
def IsGap (text : Text) : Prop :=
  Text.hasPart "<h".toList text = false ∧ text.getLast? ≠ some '<'

instance decidableIsGap (text : Text) : Decidable (IsGap text) :=
  inferInstanceAs (Decidable (_ ∧ _))

/-- A text and a row of headings, each with a text after it. -/
def pageOfHeadings (lead : Text) (row : List (WrittenHeading × Text)) : Text :=
  lead ++ row.flatMap fun (heading, gap) => heading.source ++ gap

theorem pieces_pageOfHeadings {lead : Text} {row : List (WrittenHeading × Text)}
    (leadIsGap : IsGap lead) (fits : ∀ entry ∈ row, entry.1.Fits ∧ IsGap entry.2) :
    Text.pieces Command.command? (pageOfHeadings lead row) =
      lead.map Piece.plain ++
        row.flatMap fun (heading, gap) => .item heading.command :: gap.map Piece.plain := by
  rw [pageOfHeadings, Text.pieces_append_of_inert (Command.inert_command? leadIsGap.1 leadIsGap.2),
    List.append_cancel_left_eq]
  apply Text.pieces_row
  · intro entry isEntry
    exact (fits entry isEntry).1.readsAs
  · intro entry isEntry
    exact Command.inert_command? (fits entry isEntry).2.1 (fits entry isEntry).2.2

theorem forall₂_pieces {first second : List (WrittenHeading × Text)}
    (same : List.Forall₂ (fun one other => one.1.SameButArgument other.1 ∧ one.2 = other.2)
      first second) :
    List.Forall₂ (Piece.Related Command.SameCall)
      (first.flatMap fun (heading, gap) => .item heading.command :: gap.map Piece.plain)
      (second.flatMap fun (heading, gap) => .item heading.command :: gap.map Piece.plain) := by
  induction same with
  | nil => exact .nil
  | @cons one other _ _ head _ inductionHypothesis =>
    obtain ⟨heading, gap⟩ := one
    obtain ⟨otherHeading, _⟩ := other
    obtain ⟨sameHeading, rfl⟩ : heading.SameButArgument otherHeading ∧ gap = _ := head
    exact .cons (.item sameHeading.sameCall)
      (List.rel_append (Piece.forall₂_related_plain _ gap) inductionHypothesis)

/-- Two pages whose command headings differ in their arguments alone come to the same characters of
markup in the same order, to the same notices and to settings of the same names, whatever bodies the
tables hold. -/
theorem carryOutCommands_sameButArguments (tables : Tables) {lead : Text}
    {first second : List (WrittenHeading × Text)} (leadIsGap : IsGap lead)
    (firstFits : ∀ entry ∈ first, entry.1.Fits ∧ IsGap entry.2)
    (secondFits : ∀ entry ∈ second, entry.1.Fits ∧ IsGap entry.2)
    (same : List.Forall₂ (fun one other => one.1.SameButArgument other.1 ∧ one.2 = other.2)
      first second) :
    let one := carryOutCommands tables (pageOfHeadings lead first)
    let other := carryOutCommands tables (pageOfHeadings lead second)
    markup one.html = markup other.html ∧ one.notices = other.notices ∧
      one.settings.map Prod.fst = other.settings.map Prod.fst := by
  simp only [carryOutCommands, pieces_pageOfHeadings leadIsGap firstFits,
    pieces_pageOfHeadings leadIsGap secondFits]
  apply ofResponses_of_forall₂
  apply forall₂_respondAll
  exact List.rel_append (Piece.forall₂_related_plain _ lead) (forall₂_pieces same)

/-- Arguments with tags, quotes, entities, placeholders and marks in them open no tag and end no
attribute of the bodies that they go into. -/
theorem carryOutCommands_of_hostile_arguments :
    let tables := Defaults.builtin.tables.declareAll
      [⟨.plain, "note".toList, "<i title='@ARGS@'>@CMD@</i>".toList⟩,
       ⟨.box, "warn".toList, "<div title=\"@ARGS@\">@BODY@</div>".toList⟩]
    let row (note warning parent : Text) : List (WrittenHeading × Text) :=
      [(.call '1' .expand "note".toList note, "<p>".toList),
       (.call '2' .box "warn".toList warning, " < ".toList),
       (.call '3' .expand "parent".toList parent, []),
       (.bare '1', "</p>".toList)]
    let plain := row "a".toList "b".toList "c".toList
    let hostile := row "'><script>@ARGS@&lt;".toList "\"> @BODY@ </div></".toList
      "<h1>~warn\"".toList
    IsGap [] ∧ (∀ entry ∈ plain, entry.1.Fits ∧ IsGap entry.2) ∧
      (∀ entry ∈ hostile, entry.1.Fits ∧ IsGap entry.2) ∧
      List.Forall₂ (fun one other => one.1.SameButArgument other.1 ∧ one.2 = other.2)
        plain hostile ∧
      markup (carryOutCommands tables (pageOfHeadings [] plain)).html =
        markup (carryOutCommands tables (pageOfHeadings [] hostile)).html ∧
      (carryOutCommands tables (pageOfHeadings [] plain)).notices =
        (carryOutCommands tables (pageOfHeadings [] hostile)).notices ∧
      (carryOutCommands tables (pageOfHeadings [] plain)).settings.map Prod.fst =
        (carryOutCommands tables (pageOfHeadings [] hostile)).settings.map Prod.fst := by
  intro tables row plain hostile
  have leadIsGap : IsGap [] := by decide
  have plainFits : ∀ entry ∈ plain, entry.1.Fits ∧ IsGap entry.2 := by decide
  have hostileFits : ∀ entry ∈ hostile, entry.1.Fits ∧ IsGap entry.2 := by decide
  have same : List.Forall₂ (fun one other => one.1.SameButArgument other.1 ∧ one.2 = other.2)
      plain hostile :=
    .cons ⟨.call .., rfl⟩ (.cons ⟨.call .., rfl⟩ (.cons ⟨.call .., rfl⟩
      (.cons ⟨.bare _, rfl⟩ .nil)))
  exact ⟨leadIsGap, plainFits, hostileFits, same,
    carryOutCommands_sameButArguments tables leadIsGap plainFits hostileFits same⟩

end Folio
