import Folio.Unicode.Punctuation
import Folio.Unicode.Blank

/-!
# Neighbours of a mark

Whether a run of emphasis signs, or a quotation mark, may open or close something is told by the
characters before and after it: an opening mark leans on what follows, a closing one on what
stands before.
-/

namespace Folio.Markdown

/-- A run of equal signs and its neighbours. -/
structure Flank where
  sign : Char
  length : Nat
  before : Option Char
  after : Option Char
  /-- Whether a bar before the run is the edge of a table cell. -/
  afterEdge : Bool
  /-- Whether a bar after the run is the edge of a table cell. -/
  beforeEdge : Bool
deriving DecidableEq, Repr

namespace Flank

/-- Whether a run keeps its meaning in the middle of a word. -/
def worksInWords (flank : Flank) : Bool :=
  flank.sign == '*' || (flank.sign == '~' && flank.length > 1)

/-- Whether a run may open emphasis or a quotation. At the end of a text nothing opens. -/
def opens (flank : Flank) : Bool :=
  match flank.after with
  | none => false
  | some next =>
    if Unicode.isBlank next then false
    else
      match flank.before with
      | none => true
      | some previous =>
        if flank.afterEdge then true
        else if flank.beforeEdge then false
        else
          (flank.sign == '*' && !Unicode.isPunctuation next) ||
            (flank.sign == '~' && flank.length > 1) ||
            (flank.sign == '~' && previous == '~' && !Unicode.isPunctuation next) ||
            Unicode.isBlank previous ||
            (Unicode.isPunctuation previous &&
              !(flank.sign == '\'' && (previous == ']' || previous == ')')))

/-- Whether a run may close emphasis or a quotation. At the start of a text nothing closes. -/
def closes (flank : Flank) : Bool :=
  match flank.before with
  | none => false
  | some previous =>
    if Unicode.isBlank previous then false
    else
      match flank.after with
      | none => true
      | some next =>
        if flank.afterEdge then false
        else if flank.beforeEdge then true
        else
          (flank.worksInWords && !Unicode.isPunctuation previous) ||
            (flank.sign == '~' && previous == '~') ||
            Unicode.isBlank next || Unicode.isPunctuation next

end Flank

end Folio.Markdown
