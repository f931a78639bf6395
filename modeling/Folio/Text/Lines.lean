import Folio.Text.Basic

/-!
# Lines

A line ends with a carriage return and a newline, with either of them alone, or with the text.
Reading a text as lines loses nothing: every line keeps its ending.
-/

namespace Folio

/-- A line without and with its ending; only the last line of a text may lack an ending. -/
structure Line where
  content : Text
  ending : Text
deriving DecidableEq, Repr

namespace Text

/-- The lines of a text. A text that ends with a line ending has no empty line after it. -/
def lines : Text → List Line
  | [] => []
  | '\r' :: '\n' :: text => ⟨[], ['\r', '\n']⟩ :: lines text
  | '\r' :: text => ⟨[], ['\r']⟩ :: lines text
  | '\n' :: text => ⟨[], ['\n']⟩ :: lines text
  | c :: text =>
    match lines text with
    | [] => [⟨[c], []⟩]
    | line :: rest => ⟨c :: line.content, line.ending⟩ :: rest

/-- Lines written one after another. -/
def ofLines (lines : List Line) : Text :=
  lines.flatMap fun line => line.content ++ line.ending

/-- Writing the lines of a text gives the text again. -/
theorem ofLines_lines (text : Text) : ofLines (lines text) = text := by
  fun_induction lines text with
  | case1 => rfl
  | case2 text inductionHypothesis => simpa [ofLines] using inductionHypothesis
  | case3 text _ inductionHypothesis => simpa [ofLines] using inductionHypothesis
  | case4 text inductionHypothesis => simpa [ofLines] using inductionHypothesis
  | case5 c text _ _ _ found inductionHypothesis => simp_all [ofLines]
  | case6 c text _ _ _ line rest found inductionHypothesis => simp_all [ofLines]

end Text

end Folio
