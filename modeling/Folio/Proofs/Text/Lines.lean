import Folio.Proofs.Text.Run
import Folio.Text.Lines

/-!
# What the lines of a text are

A text falls into lines in one way only: the contents hold no carriage return and no newline, every
line but the last has an ending, and an ending that is a carriage return alone is not followed by a
newline. So rows of this kind and texts stand for each other.
-/

namespace Folio

/-- A text in which no line ends. -/
def Text.OneLine (text : Text) : Prop :=
  ∀ c ∈ text, c ≠ '\n' ∧ c ≠ '\r'

instance (text : Text) : Decidable text.OneLine :=
  inferInstanceAs (Decidable (∀ c ∈ text, c ≠ '\n' ∧ c ≠ '\r'))

/-- The three ways in which a line ends. -/
inductive IsLineEnding : Text → Prop
  | pair : IsLineEnding ['\r', '\n']
  | carriageReturn : IsLineEnding ['\r']
  | newline : IsLineEnding ['\n']

/-- A text goes on after a line ending, unless the two together are one longer ending. -/
def EndsBefore (ending rest : Text) : Prop :=
  ending = ['\r'] → rest.head? ≠ some '\n'

/-- A text is at its end or goes on with a character of a line ending. -/
def AtLineEnd (rest : Text) : Prop :=
  ∀ c, rest.head? = some c → c = '\n' ∨ c = '\r'

theorem atLineEnd_nil : AtLineEnd [] :=
  fun _ isHead => by cases isHead

theorem IsLineEnding.atLineEnd {ending : Text} (isEnding : IsLineEnding ending) (rest : Text) :
    AtLineEnd (ending ++ rest) := by
  rintro c isHead
  cases isEnding with
  | pair => exact .inr (Option.some.inj isHead).symm
  | carriageReturn => exact .inr (Option.some.inj isHead).symm
  | newline => exact .inl (Option.some.inj isHead).symm

/-- Rows that are the lines of a text. -/
inductive AreLines : List Line → Prop
  | nil : AreLines []
  | last {content : Text} (nonempty : content ≠ []) (oneLine : content.OneLine) :
      AreLines [⟨content, []⟩]
  | cons {content ending : Text} {rows : List Line} (oneLine : content.OneLine)
      (isEnding : IsLineEnding ending) (endsBefore : EndsBefore ending (Text.ofLines rows))
      (later : AreLines rows) : AreLines (⟨content, ending⟩ :: rows)

/-- A line with another content. -/
def Line.mapContent (change : Text → Text) (line : Line) : Line :=
  { line with content := change line.content }

namespace Text

theorem ofLines_cons (line : Line) (rows : List Line) :
    ofLines (line :: rows) = line.content ++ line.ending ++ ofLines rows :=
  rfl

theorem ofLines_last (content : Text) : ofLines [⟨content, []⟩] = content := by
  simp [ofLines]

theorem OneLine.cons {c : Char} {text : Text} (notNewline : c ≠ '\n') (notReturn : c ≠ '\r')
    (oneLine : text.OneLine) : OneLine (c :: text) :=
  List.forall_mem_cons.2 ⟨⟨notNewline, notReturn⟩, oneLine⟩

theorem OneLine.append {first second : Text} (firstOneLine : first.OneLine)
    (secondOneLine : second.OneLine) : OneLine (first ++ second) :=
  List.forall_mem_append.2 ⟨firstOneLine, secondOneLine⟩

/-- No line ends in a text without whitespace. -/
theorem oneLine_of_visible {text : Text} (visible : ∀ c ∈ text, Unicode.isBlank c = false) :
    text.OneLine := by
  intro c member
  have isVisible := visible c member
  constructor
  · rintro rfl
    exact absurd isVisible (by decide)
  · rintro rfl
    exact absurd isVisible (by decide)

/-- The part of a text up to the first line ending is known by the text. -/
theorem eq_of_oneLine {first second firstRest secondRest : Text}
    (same : first ++ firstRest = second ++ secondRest) (firstOneLine : first.OneLine)
    (secondOneLine : second.OneLine)
    (firstEnds : AtLineEnd firstRest) (secondEnds : AtLineEnd secondRest) :
    first = second ∧ firstRest = secondRest := by
  induction first generalizing second with
  | nil =>
    cases second with
    | nil => exact ⟨rfl, same⟩
    | cons c second =>
      obtain ⟨notNewline, notReturn⟩ := secondOneLine c List.mem_cons_self
      rw [List.nil_append] at same
      rcases firstEnds c (by rw [same]; rfl) with isNewline | isReturn
      · exact absurd isNewline notNewline
      · exact absurd isReturn notReturn
  | cons c first inductionHypothesis =>
    obtain ⟨⟨notNewline, notReturn⟩, firstOneLine⟩ := List.forall_mem_cons.1 firstOneLine
    cases second with
    | nil =>
      rw [List.nil_append] at same
      rcases secondEnds c (by rw [← same]; rfl) with isNewline | isReturn
      · exact absurd isNewline notNewline
      · exact absurd isReturn notReturn
    | cons d second =>
      obtain ⟨rfl, sameTail⟩ := List.cons.inj same
      obtain ⟨rfl, rfl⟩ := inductionHypothesis sameTail firstOneLine
        (List.forall_mem_cons.1 secondOneLine).2
      exact ⟨rfl, rfl⟩

theorem lines_cons_of_ne {c : Char} (notNewline : c ≠ '\n') (notReturn : c ≠ '\r')
    (text : Text) :
    lines (c :: text) =
      match lines text with
      | [] => [⟨[c], []⟩]
      | line :: rest => ⟨c :: line.content, line.ending⟩ :: rest := by
  cases rest : lines text with
  | nil => simp [lines, notReturn, rest]
  | cons line rest => simp [lines, notReturn, rest]

/-- A text in which no line ends is one line. -/
theorem lines_of_oneLine {text : Text} (nonempty : text ≠ []) (oneLine : text.OneLine) :
    lines text = [⟨text, []⟩] := by
  induction text with
  | nil => exact absurd rfl nonempty
  | cons c text inductionHypothesis =>
    obtain ⟨⟨notNewline, notReturn⟩, oneLine⟩ := List.forall_mem_cons.1 oneLine
    rw [lines_cons_of_ne notNewline notReturn]
    cases text with
    | nil => rfl
    | cons d text => rw [inductionHypothesis (List.cons_ne_nil d text) oneLine]

/-- A text starts with a line and goes on after its ending. -/
theorem lines_append_ending {content ending rest : Text} (oneLine : content.OneLine)
    (isEnding : IsLineEnding ending) (endsBefore : EndsBefore ending rest) :
    lines (content ++ ending ++ rest) = ⟨content, ending⟩ :: lines rest := by
  induction content with
  | nil =>
    cases isEnding with
    | pair => rfl
    | newline => rfl
    | carriageReturn =>
      have notPair := endsBefore rfl
      rw [List.nil_append, List.singleton_append, lines]
      rintro after rfl
      exact notPair rfl
  | cons c content inductionHypothesis =>
    obtain ⟨⟨notNewline, notReturn⟩, oneLine⟩ := List.forall_mem_cons.1 oneLine
    rw [List.cons_append, List.cons_append, lines_cons_of_ne notNewline notReturn,
      inductionHypothesis oneLine]

/-- Rows that are the lines of a text are the lines of the text that they make. -/
theorem lines_ofLines {rows : List Line} (areLines : AreLines rows) :
    lines (ofLines rows) = rows := by
  induction areLines with
  | nil => rfl
  | last nonempty oneLine => rw [ofLines_last, lines_of_oneLine nonempty oneLine]
  | cons oneLine isEnding endsBefore _ inductionHypothesis =>
    rw [ofLines_cons, lines_append_ending oneLine isEnding endsBefore, inductionHypothesis]

/-- Rows start with a newline only as an empty line that a newline alone ends. -/
theorem head?_ofLines_eq_newline_iff {rows : List Line} (areLines : AreLines rows) :
    (ofLines rows).head? = some '\n' ↔ rows.head? = some ⟨[], ['\n']⟩ := by
  cases areLines with
  | nil => simp [ofLines]
  | last nonempty oneLine =>
    next content =>
    cases content with
    | nil => exact absurd rfl nonempty
    | cons c content => simp [ofLines, (oneLine c List.mem_cons_self).1]
  | cons oneLine isEnding endsBefore later =>
    next content ending rows =>
    cases content with
    | nil => cases isEnding <;> simp [ofLines]
    | cons c content => simp [ofLines, (oneLine c List.mem_cons_self).1]

/-- Lines stay lines if their contents are changed, as long as a content stays in its line and does
not become empty: an empty content could let two endings join. -/
theorem areLines_map_mapContent {rows : List Line} (areLines : AreLines rows)
    {change : Text → Text}
    (oneLine : ∀ content : Text, content.OneLine → (change content).OneLine)
    (nonempty : ∀ content : Text, content ≠ [] → change content ≠ []) :
    AreLines (rows.map (Line.mapContent change)) := by
  induction areLines with
  | nil => exact .nil
  | last contentNonempty contentOneLine =>
    exact .last (nonempty _ contentNonempty) (oneLine _ contentOneLine)
  | cons contentOneLine isEnding endsBefore later inductionHypothesis =>
    next content ending rows =>
    refine .cons (oneLine _ contentOneLine) isEnding ?_ inductionHypothesis
    intro isReturn startsNewline
    apply endsBefore isReturn
    rw [head?_ofLines_eq_newline_iff inductionHypothesis, List.head?_map,
      Option.map_eq_some_iff] at startsNewline
    obtain ⟨⟨first, firstEnding⟩, isFirst, same⟩ := startsNewline
    obtain ⟨emptied, rfl⟩ := Line.mk.inj same
    have wasEmpty : first = [] :=
      Decidable.byContradiction fun notEmpty => nonempty first notEmpty emptied
    rw [head?_ofLines_eq_newline_iff later, isFirst, wasEmpty]

theorem areLines_lines (text : Text) : AreLines (lines text) := by
  fun_induction lines text with
  | case1 => exact .nil
  | case2 text inductionHypothesis =>
    exact .cons (by simp [OneLine]) .pair (by simp [EndsBefore]) inductionHypothesis
  | case3 text notPair inductionHypothesis =>
    refine .cons (by simp [OneLine]) .carriageReturn ?_ inductionHypothesis
    rw [ofLines_lines]
    intro _ isNewline
    obtain ⟨rest, rfl⟩ := List.head?_eq_some_iff.1 isNewline
    exact notPair rest rfl
  | case4 text inductionHypothesis =>
    exact .cons (by simp [OneLine]) .newline (by simp [EndsBefore]) inductionHypothesis
  | case5 c text _ notReturn notNewline _ _ =>
    exact .last (List.cons_ne_nil c []) (.cons notNewline notReturn (by simp [OneLine]))
  | case6 c text _ notReturn notNewline line rest found inductionHypothesis =>
    -- The character goes to the first of the lines that follow it.
    rw [found] at inductionHypothesis
    cases inductionHypothesis with
    | last nonempty oneLine =>
      exact .last (List.cons_ne_nil c _) (.cons notNewline notReturn oneLine)
    | cons oneLine isEnding endsBefore later =>
      exact .cons (.cons notNewline notReturn oneLine) isEnding endsBefore later

/-- The lines of a text are the only rows that make the text and can be lines. -/
theorem lines_eq_iff {text : Text} {rows : List Line} :
    lines text = rows ↔ ofLines rows = text ∧ AreLines rows := by
  constructor
  · rintro rfl
    exact ⟨ofLines_lines text, areLines_lines text⟩
  · rintro ⟨rfl, areLines⟩
    exact lines_ofLines areLines

end Text

end Folio
