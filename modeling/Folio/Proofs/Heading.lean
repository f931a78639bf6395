import Folio.Command
import Folio.Proofs.Entity
import Folio.Proofs.Text.Mark
import Folio.Proofs.Text.Run

/-!
# Command headings in a text

A command heading is one stretch of a page: it starts with `<h` and ends with the first heading
end on the line of its sigil. A heading that is written in full is read as its command whatever
follows it, and a text in which no heading tag starts holds no command.
-/

namespace Folio.Text

/-- A text is leading whitespace and the text without it, which starts with none. -/
theorem exists_blanks_append_trimStart (text : Text) :
    ∃ blanks, text = blanks ++ trimStart text ∧ (∀ c ∈ blanks, Unicode.isBlank c = true) ∧
      ∀ c, (trimStart text).head? = some c → Unicode.isBlank c = false := by
  have ran : run Unicode.isBlank text = (text.takeWhile Unicode.isBlank, trimStart text) := rfl
  obtain ⟨split, blank⟩ := eq_append_of_run ran
  refine ⟨_, split, blank, ?_⟩
  intro c first
  have stops := List.head?_dropWhile_not Unicode.isBlank text
  rw [trimStart] at first
  rw [first] at stops
  simpa using stops

theorem trimStart_of_head {text : Text}
    (head : ∀ c, text.head? = some c → Unicode.isBlank c = false) : trimStart text = text := by
  cases text with
  | nil => rfl
  | cons c text => simp [trimStart, head c rfl]

/-- Leading whitespace is looked for no further than to a character that is none. -/
theorem trimStart_append_cons {c : Char} (noBlank : Unicode.isBlank c = false)
    (text rest : Text) : trimStart (text ++ c :: rest) = trimStart text ++ c :: rest := by
  induction text with
  | nil => simp [trimStart, noBlank]
  | cons d text inductionHypothesis =>
    cases isBlank : Unicode.isBlank d with
    | true => simpa [trimStart, isBlank] using inductionHypothesis
    | false => simp [trimStart, isBlank]

theorem cutAtBlank?_append {word : Text} (noBlank : ∀ c ∈ word, Unicode.isBlank c = false)
    (text : Text) :
    cutAtBlank? (word ++ text) =
      (cutAtBlank? text).map fun (before, after) => (word ++ before, after) := by
  induction word with
  | nil => simp
  | cons c word inductionHypothesis =>
    have plain := noBlank c (List.mem_cons_self ..)
    have rest := inductionHypothesis fun d member => noBlank d (List.mem_cons_of_mem c member)
    rw [List.cons_append, cutAtBlank?, plain, rest]
    cases cutAtBlank? text <;> rfl

/-- The first whitespace of a text, with the word before it. -/
theorem eq_of_cutAtBlank? {text word rest : Text} (cut : cutAtBlank? text = some (word, rest)) :
    ∃ blank, text = word ++ blank :: rest ∧ Unicode.isBlank blank = true ∧
      ∀ c ∈ word, Unicode.isBlank c = false := by
  induction text generalizing word with
  | nil => cases cut
  | cons c text inductionHypothesis =>
    rw [cutAtBlank?] at cut
    split at cut
    · next isBlank =>
      obtain ⟨rfl, rfl⟩ := Prod.mk.inj (Option.some.inj cut)
      exact ⟨c, rfl, isBlank, by simp⟩
    · next noBlank =>
      obtain ⟨⟨before, after⟩, found, same⟩ := Option.map_eq_some_iff.1 cut
      obtain ⟨rfl, rfl⟩ := Prod.mk.inj same
      obtain ⟨blank, rfl, isBlank, plain⟩ := inductionHypothesis found
      exact ⟨blank, rfl, isBlank, List.forall_mem_cons.2 ⟨by simpa using noBlank, plain⟩⟩

theorem not_isBlank_of_cutAtBlank? {text : Text} (noCut : cutAtBlank? text = none) :
    ∀ c ∈ text, Unicode.isBlank c = false := by
  induction text with
  | nil => simp
  | cons c text inductionHypothesis =>
    rw [cutAtBlank?] at noCut
    split at noCut
    · cases noCut
    · next noBlank =>
      exact List.forall_mem_cons.2
        ⟨by simpa using noBlank, inductionHypothesis (Option.map_eq_none_iff.1 noCut)⟩

end Folio.Text

namespace Folio

/-- The sign that a sigil is written with. -/
def Sigil.sign : Sigil → Char
  | .expand => '@'
  | .box => '~'

theorem Sigil.ofChar?_sign (sigil : Sigil) : ofChar? sigil.sign = some sigil := by
  cases sigil <;> rfl

theorem Sigil.sign_of_ofChar? {sign : Char} {sigil : Sigil} (isSign : ofChar? sign = some sigil) :
    sign = sigil.sign := by
  unfold ofChar? at isSign
  split at isSign
  · obtain rfl := Option.some.inj isSign
    rfl
  · obtain rfl := Option.some.inj isSign
    rfl
  · cases isSign

end Folio

namespace Folio.Command

open Text

/-! ## Headings as they are written -/

/-- The text of a heading is the word and the argument of a command: the word ends at the first
whitespace, and the argument starts after it. -/
structure Splits (command : Command) (line : Text) : Prop where
  noBlank : ∀ c ∈ command.word, Unicode.isBlank c = false
  parts : (line = command.word ∧ command.argument = []) ∨
    ∃ gap, gap ≠ [] ∧ (∀ c ∈ gap, Unicode.isBlank c = true) ∧
      line = command.word ++ gap ++ command.argument ∧
      ∀ c, command.argument.head? = some c → Unicode.isBlank c = false

theorem splits_ofText (sigil : Sigil) (line : Text) : (ofText sigil line).Splits line := by
  rw [ofText]
  cases cut : cutAtBlank? line with
  | none => exact ⟨not_isBlank_of_cutAtBlank? cut, .inl ⟨rfl, rfl⟩⟩
  | some parts =>
    obtain ⟨word, rest⟩ := parts
    obtain ⟨blank, rfl, isBlank, noBlank⟩ := eq_of_cutAtBlank? cut
    obtain ⟨blanks, split, areBlank, stops⟩ := exists_blanks_append_trimStart rest
    refine ⟨noBlank, .inr ⟨blank :: blanks, by simp, ?_, ?_, stops⟩⟩
    · exact List.forall_mem_cons.2 ⟨isBlank, areBlank⟩
    · conv_lhs => rw [split]
      simp

/-- A heading is written as a command: an opening tag of some level, the sigil with whitespace
around it, a line that is the word and the argument, and a heading end. -/
def IsWritten (command : Command) (source : Text) : Prop :=
  ∃ level attributes lead gap line close,
    source = "<h".toList ++ (level :: attributes ++ '>' :: (lead ++ command.sigil.sign ::
      (gap ++ (line ++ ("</h".toList ++ [close, '>']))))) ∧
    Unicode.isDecimalDigit level = true ∧ '>' ∉ attributes ∧
    (∀ c ∈ lead ++ gap, Unicode.isBlank c = true) ∧
    (∀ c, line.head? = some c → Unicode.isBlank c = false) ∧ '\n' ∉ line ∧
    command.Splits line ∧ Unicode.isDecimalDigit close = true

theorem eq_of_headingEnd? {text after : Text} (found : headingEnd? text = some after) :
    ∃ close, text = "</h".toList ++ close :: '>' :: after ∧
      Unicode.isDecimalDigit close = true := by
  rw [headingEnd?, Option.bind_eq_bind, Option.bind_eq_some_iff] at found
  obtain ⟨rest, lead, found⟩ := found
  rw [dropLead?_eq_some_iff.1 lead]
  split at found
  · next close tail =>
    split at found
    · next digit =>
      obtain rfl := Option.some.inj found
      exact ⟨close, rfl, digit⟩
    · cases found
  · cases found

theorem eq_of_headingText? {text line after : Text}
    (found : headingText? text = some (line, after)) :
    ∃ close, text = line ++ ("</h".toList ++ close :: '>' :: after) ∧ '\n' ∉ line ∧
      Unicode.isDecimalDigit close = true := by
  induction text generalizing line with
  | nil => cases found
  | cons c text inductionHypothesis =>
    rw [headingText?] at found
    split at found
    · next ended =>
      obtain ⟨rfl, rfl⟩ := Prod.mk.inj (Option.some.inj found)
      obtain ⟨close, split, digit⟩ := eq_of_headingEnd? ended
      exact ⟨close, split, by simp, digit⟩
    · split at found
      · cases found
      · next noBreak =>
        obtain ⟨⟨before, rest⟩, later, same⟩ := Option.map_eq_some_iff.1 found
        obtain ⟨rfl, rfl⟩ := Prod.mk.inj same
        obtain ⟨close, rfl, oneLine, digit⟩ := inductionHypothesis later
        exact ⟨close, rfl, by simp [Ne.symm noBreak, oneLine], digit⟩

theorem eq_of_headingStart? {text after : Text} (found : headingStart? text = some after) :
    ∃ level attributes, text = "<h".toList ++ (level :: attributes ++ '>' :: after) ∧
      Unicode.isDecimalDigit level = true ∧ '>' ∉ attributes := by
  rw [headingStart?, Option.bind_eq_bind, Option.bind_eq_some_iff] at found
  obtain ⟨rest, lead, found⟩ := found
  rw [dropLead?_eq_some_iff.1 lead]
  split at found
  · next level tail =>
    split at found
    · next digit =>
      split at found
      · next c rest stopped =>
        obtain rfl := Option.some.inj found
        have ran : run (· ≠ '>') tail = (tail.takeWhile (· ≠ '>'), c :: rest) := by
          rw [run, stopped]
        obtain ⟨split, inside⟩ := eq_append_of_run ran
        have isEnd : c = '>' := by
          have stops := List.head?_dropWhile_not (· ≠ '>') tail
          rw [stopped] at stops
          simpa using stops
        refine ⟨level, tail.takeWhile (· ≠ '>'), ?_, digit, ?_⟩
        · conv_lhs => rw [split, isEnd]
          rfl
        · intro member
          simpa using inside _ member
      · cases found
    · cases found
  · cases found

theorem sigil_ofText (sigil : Sigil) (line : Text) : (ofText sigil line).sigil = sigil := by
  unfold ofText
  split <;> rfl

/-- What is recognised as a command is a heading that is written as the command. -/
theorem exists_source_of_command? {text after : Text} {command : Command}
    (found : command? text = some (command, after)) :
    ∃ source, text = source ++ after ∧ command.IsWritten source := by
  simp only [command?, Option.bind_eq_bind, Option.bind_eq_some_iff] at found
  obtain ⟨inside, start, found⟩ := found
  obtain ⟨level, attributes, rfl, digit, noEnd⟩ := eq_of_headingStart? start
  obtain ⟨lead, spaced, leadBlank, -⟩ := exists_blanks_append_trimStart inside
  split at found
  · next sign tail trimmed =>
    simp only [Option.bind_eq_some_iff] at found
    obtain ⟨sigil, isSign, ⟨line, rest⟩, ended, found⟩ := found
    obtain ⟨rfl, rfl⟩ := Prod.mk.inj (Option.some.inj found)
    obtain ⟨gap, spacedTail, gapBlank, stops⟩ := exists_blanks_append_trimStart tail
    obtain ⟨close, ending, oneLine, closeDigit⟩ := eq_of_headingText? ended
    refine ⟨_, ?_, level, attributes, lead, gap, line, close, rfl, digit, noEnd, ?_, ?_, oneLine,
      splits_ofText sigil line, closeDigit⟩
    · conv_lhs => rw [spaced, trimmed, spacedTail, ending]
      simp [sigil_ofText, Sigil.sign_of_ofChar? isSign]
    · exact List.forall_mem_append.2 ⟨leadBlank, gapBlank⟩
    · intro c first
      rw [ending] at stops
      exact stops c (by rw [List.head?_append, first, Option.some_or])
  · cases found

/-- A command heading starts with `<h`, and what follows it is left as it was. -/
theorem exists_append_of_command? {text after : Text} {command : Command}
    (found : command? text = some (command, after)) :
    ∃ tag, text = '<' :: 'h' :: tag ++ after := by
  obtain ⟨source, rfl, written⟩ := exists_source_of_command? found
  obtain ⟨level, attributes, lead, gap, line, close, rfl, -⟩ := written
  exact ⟨_, rfl⟩

theorem command?_proper : Proper command? := by
  intro text after command found
  obtain ⟨tag, split⟩ := exists_append_of_command? found
  exact ⟨'<' :: 'h' :: tag, by simp, split⟩

/-- No command starts in a text in which no heading tag starts. -/
theorem inert_command? {text : Text} (noTag : hasPart "<h".toList text = false)
    (noEnd : text.getLast? ≠ some '<') : Inert command? text := by
  refine inert_of_pair ?_ noTag noEnd
  rintro text ⟨command, after⟩ found
  obtain ⟨tag, split⟩ := exists_append_of_command? found
  exact ⟨tag ++ after, split⟩

theorem inert_command?_of_not_mem {text : Text} (noTag : '<' ∉ text) : Inert command? text := by
  have starts : ∀ {text : Text} {value : Command × Text}, command? text = some value →
      ∃ rest, text = ['<', 'h'] ++ rest := by
    rintro text ⟨command, after⟩ found
    obtain ⟨tag, split⟩ := exists_append_of_command? found
    exact ⟨tag ++ after, split⟩
  exact (inert_of_not_mem noTag).of_lead starts

/-! ## Headings written in full -/

/-- A heading of a level with a sign and a text after it. -/
def written (level sign : Char) (text : Text) : Text :=
  '<' :: 'h' :: level :: '>' :: sign :: (text ++ ['<', '/', 'h', level, '>'])

/-- A text on one line that holds no heading end belongs to the heading that it stands in. -/
theorem headingText?_append {text : Text} (noEnd : hasPart "</h".toList text = false)
    (oneLine : '\n' ∉ text) (rest : Text) :
    headingText? (text ++ '<' :: rest) =
      (headingText? ('<' :: rest)).map fun (content, after) => (text ++ content, after) := by
  induction text with
  | nil => simp
  | cons c text inductionHypothesis =>
    simp only [List.mem_cons, not_or] at oneLine
    have noLead : dropLead? "</h".toList (c :: (text ++ '<' :: rest)) = none := by
      have tag : "</h".toList = '<' :: "/h".toList := by decide
      rw [tag, dropLead?_cons_append_cons (by decide), ← tag, dropLead?_of_absent noEnd]
      rfl
    have missed : headingEnd? (c :: (text ++ '<' :: rest)) = none := by
      rw [headingEnd?, noLead]
      rfl
    have later : hasPart "</h".toList text = false :=
      (@hasPart_of_append "</h".toList [c] text noEnd).2
    rw [List.cons_append, headingText?, missed, inductionHypothesis later oneLine.2]
    simp only [if_neg (Ne.symm oneLine.1)]
    cases headingText? ('<' :: rest) <;> rfl

theorem headingText?_end {level : Char} (digit : Unicode.isDecimalDigit level = true)
    (rest : Text) : headingText? ('<' :: '/' :: 'h' :: level :: '>' :: rest) = some ([], rest) := by
  have ended : headingEnd? ('<' :: '/' :: 'h' :: level :: '>' :: rest) = some rest := by
    simp [headingEnd?, digit]
  rw [headingText?, ended]

theorem isBlank_of_ofChar? {sign : Char} {sigil : Sigil}
    (isSign : Sigil.ofChar? sign = some sigil) : Unicode.isBlank sign = false := by
  unfold Sigil.ofChar? at isSign
  split at isSign
  · decide
  · decide
  · simp at isSign

/-- A heading with a sigil is read as the command that its text spells. -/
theorem readsAs_written_of_absent {level sign : Char} {sigil : Sigil}
    (digit : Unicode.isDecimalDigit level = true) (isSign : Sigil.ofChar? sign = some sigil)
    {text : Text} (noEnd : hasPart "</h".toList text = false) (oneLine : '\n' ∉ text)
    (head : ∀ c, text.head? = some c → Unicode.isBlank c = false) :
    ReadsAs command? (written level sign text) (ofText sigil text) := by
  refine ⟨by simp [written], ?_⟩
  intro rest
  have start : headingStart? (written level sign text ++ rest) =
      some (sign :: (text ++ ('<' :: '/' :: 'h' :: level :: '>' :: rest))) := by
    simp [written, headingStart?, digit]
  have noBlank : trimStart (sign :: (text ++ ('<' :: '/' :: 'h' :: level :: '>' :: rest))) =
      sign :: (text ++ ('<' :: '/' :: 'h' :: level :: '>' :: rest)) :=
    trimStart_of_head (by simp [isBlank_of_ofChar? isSign])
  have spaced : trimStart (text ++ ('<' :: '/' :: 'h' :: level :: '>' :: rest)) =
      text ++ ('<' :: '/' :: 'h' :: level :: '>' :: rest) := by
    apply trimStart_of_head
    cases text with
    | nil => simp; decide
    | cons c text => simpa using head
  have ended := headingText?_append noEnd oneLine ('/' :: 'h' :: level :: '>' :: rest)
  rw [headingText?_end digit] at ended
  simp [command?, start, noBlank, isSign, spaced, ended]

/-- A heading without a tag inside it holds no heading end before its own. -/
theorem readsAs_written {level sign : Char} {sigil : Sigil}
    (digit : Unicode.isDecimalDigit level = true) (isSign : Sigil.ofChar? sign = some sigil)
    {text : Text} (noTag : '<' ∉ text) (oneLine : '\n' ∉ text)
    (head : ∀ c, text.head? = some c → Unicode.isBlank c = false) :
    ReadsAs command? (written level sign text) (ofText sigil text) :=
  readsAs_written_of_absent digit isSign ((inert_of_not_mem noTag).hasPart (by simp)) oneLine head

/-- A word and whatever follows it after a blank spell a command. -/
theorem ofText_append_trimStart {word : Text} (sigil : Sigil)
    (noBlank : ∀ c ∈ word, Unicode.isBlank c = false) (argument : Text) :
    ofText sigil (word ++ ' ' :: argument) = ⟨sigil, word, trimStart argument⟩ := by
  have cut : cutAtBlank? (word ++ ' ' :: argument) = some (word, argument) := by
    rw [cutAtBlank?_append noBlank]
    simp [cutAtBlank?]
  simp [ofText, cut]

/-- A word and an argument with one space between them spell the command of both. -/
theorem ofText_append {word argument : Text} (sigil : Sigil)
    (noBlank : ∀ c ∈ word, Unicode.isBlank c = false) (trimmed : trimStart argument = argument) :
    ofText sigil (word ++ ' ' :: argument) = ⟨sigil, word, argument⟩ := by
  rw [ofText_append_trimStart sigil noBlank, trimmed]

/-- A word alone spells a command without an argument. -/
theorem ofText_word {word : Text} (sigil : Sigil)
    (noBlank : ∀ c ∈ word, Unicode.isBlank c = false) : ofText sigil word = ⟨sigil, word, []⟩ := by
  have cut : cutAtBlank? word = none := by
    have ended := cutAtBlank?_append noBlank []
    rwa [List.append_nil] at ended
  simp [ofText, cut]

/-- A heading whose text starts neither with whitespace nor with a sigil holds no command. -/
theorem itemFree_heading {level : Char} (digit : Unicode.isDecimalDigit level = true) {text : Text}
    (noTag : '<' ∉ text)
    (head : ∀ c, text.head? = some c → Unicode.isBlank c = false ∧ Sigil.ofChar? c = none) :
    ItemFree command? ('<' :: 'h' :: level :: '>' :: (text ++ ['<', '/', 'h', level, '>'])) := by
  have start : headingStart?
      ('<' :: 'h' :: level :: '>' :: (text ++ ['<', '/', 'h', level, '>'])) =
        some (text ++ ['<', '/', 'h', level, '>']) := by
    simp [headingStart?, digit]
  have missed : command?
      ('<' :: 'h' :: level :: '>' :: (text ++ ['<', '/', 'h', level, '>'])) = none := by
    rw [command?, start]
    cases text with
    | nil =>
      have spaced : trimStart (['<', '/', 'h', level, '>'] : Text) = ['<', '/', 'h', level, '>'] :=
        trimStart_of_head (by simp; decide)
      simp [spaced, Sigil.ofChar?]
    | cons c text =>
      obtain ⟨noBlank, noSigil⟩ := head c rfl
      have spaced : trimStart (c :: (text ++ ['<', '/', 'h', level, '>'])) =
          c :: (text ++ ['<', '/', 'h', level, '>']) :=
        trimStart_of_head (by simp [noBlank])
      simp [spaced, noSigil]
  have notBegin : level ≠ '<' := by
    rintro rfl
    exact absurd digit (by decide)
  refine itemFree_cons.2 ⟨missed, ?_⟩
  have lead : Inert command? ('h' :: level :: '>' :: text) :=
    inert_command?_of_not_mem (by simp [Ne.symm notBegin, noTag])
  have close : Inert command? ['<', '/', 'h', level, '>'] := by
    refine inert_cons.2 ⟨?_, inert_command?_of_not_mem (by simp [Ne.symm notBegin])⟩
    intro rest
    simp [command?, headingStart?]
  exact lead.itemFree_append close.itemFree

end Folio.Command
