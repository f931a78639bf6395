import Folio.Text.Basic

/-!
# Scanning a text from left to right

A recogniser looks at the start of a text: it gives a value and what follows it, or nothing.
`pieces` reads a text with a recogniser from left to right. Where an item is recognised it is
taken whole and reading goes on after it; anywhere else one character is taken as it stands.
Items therefore never overlap, and what an item is replaced by is never read again.

The recursion is on the text itself. An item that is longer than one character leaves a number
of characters to be passed over.
-/

namespace Folio

/-- One step of a scan: a plain character, or a recognised item. -/
inductive Piece (α : Type) where
  | plain (c : Char)
  | item (value : α)
deriving DecidableEq, Repr

namespace Piece

variable {α : Type}

/-- The recognised value of a piece. -/
def item? : Piece α → Option α
  | .plain _ => none
  | .item value => some value

/-- A piece as text, for a given spelling of the items. -/
def expand (spell : α → Text) : Piece α → Text
  | .plain c => [c]
  | .item value => spell value

@[simp]
theorem expand_plain (spell : α → Text) (c : Char) : (Piece.plain c).expand spell = [c] :=
  rfl

@[simp]
theorem expand_item (spell : α → Text) (value : α) :
    (Piece.item value).expand spell = spell value :=
  rfl

end Piece

namespace Text

variable {α : Type}

/-- Looks for an item at the start of a text, and gives it with what follows it. -/
abbrev Recogniser (α : Type) := Text → Option (α × Text)

/-- The pieces of a text of which the first `skip` characters belong to an earlier item. -/
def piecesFrom (recognise : Recogniser α) : (skip : Nat) → Text → List (Piece α)
  | _, [] => []
  | skip + 1, _ :: text => piecesFrom recognise skip text
  | 0, c :: text =>
    match recognise (c :: text) with
    | some (value, after) => .item value :: piecesFrom recognise (text.length - after.length) text
    | none => .plain c :: piecesFrom recognise 0 text

/-- The pieces of a text, in order. -/
def pieces (recognise : Recogniser α) (text : Text) : List (Piece α) :=
  piecesFrom recognise 0 text

@[simp]
theorem piecesFrom_nil (recognise : Recogniser α) (skip : Nat) :
    piecesFrom recognise skip [] = [] := by
  cases skip <;> rfl

/-- Passing over characters is reading the text without them. -/
theorem piecesFrom_eq_drop (recognise : Recogniser α) (skip : Nat) (text : Text) :
    piecesFrom recognise skip text = pieces recognise (text.drop skip) := by
  induction text generalizing skip with
  | nil => simp [pieces]
  | cons c text inductionHypothesis =>
    cases skip with
    | zero => rfl
    | succ skip => simpa [piecesFrom] using inductionHypothesis skip

@[simp]
theorem pieces_nil (recognise : Recogniser α) : pieces recognise [] = [] :=
  rfl

/-- Where nothing is recognised, one character is taken as it stands. -/
theorem pieces_cons_of_none {recognise : Recogniser α} {c : Char} {text : Text}
    (missed : recognise (c :: text) = none) :
    pieces recognise (c :: text) = .plain c :: pieces recognise text := by
  simp [pieces, piecesFrom, missed]

/-- A recognised item is taken whole, and reading goes on after it. -/
theorem pieces_append_of_some {recognise : Recogniser α} {taken after : Text} {value : α}
    (nonempty : taken ≠ []) (found : recognise (taken ++ after) = some (value, after)) :
    pieces recognise (taken ++ after) = .item value :: pieces recognise after := by
  cases taken with
  | nil => exact absurd rfl nonempty
  | cons c taken =>
    rw [List.cons_append] at found ⊢
    rw [pieces, piecesFrom, found]
    simp [piecesFrom_eq_drop]

/-- The recognised items of a text, in order. -/
def items (recognise : Recogniser α) (text : Text) : List α :=
  (pieces recognise text).filterMap Piece.item?

/-- A text with every recognised item replaced by its spelling. -/
def substitute (recognise : Recogniser α) (spell : α → Text) (text : Text) : Text :=
  (pieces recognise text).flatMap (Piece.expand spell)

@[simp]
theorem substitute_nil (recognise : Recogniser α) (spell : α → Text) :
    substitute recognise spell [] = [] :=
  rfl

/-- The first item found anywhere in a text. -/
def firstItem? (recognise : Recogniser α) : Text → Option α
  | [] => none
  | c :: text =>
    match recognise (c :: text) with
    | some (value, _) => some value
    | none => firstItem? recognise text

end Text

end Folio
