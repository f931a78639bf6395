import Folio.Entity
import Folio.Proofs.Text.Scan

/-!
# The characters of requoted texts

Requoting writes every character of markup as an entity and loses no text: only the empty text is
requoted as the empty text.
-/

namespace Folio

/-- Whether a character begins or ends a tag or the value of an attribute. -/
def isMarkup (c : Char) : Bool :=
  c == '<' || c == '>' || c == '"' || c == '\''

/-- The characters of markup in a text, in order. -/
def markup (text : Text) : Text :=
  text.filter isMarkup

@[simp]
theorem markup_append (first second : Text) :
    markup (first ++ second) = markup first ++ markup second :=
  List.filter_append ..

namespace Entity

theorem markup_quoteChar (c : Char) : markup (quoteChar c) = [] := by
  unfold quoteChar
  split
  · decide
  · decide
  · decide
  · decide
  · decide
  · next noAmp noLess noGreater noDouble noSingle =>
    have plain : isMarkup c = false := by
      simp only [isMarkup, Bool.or_eq_false_iff, beq_eq_false_iff_ne]
      exact ⟨⟨⟨noLess, noGreater⟩, noDouble⟩, noSingle⟩
    simp [markup, plain]

/-- A quoted text holds no character of markup. -/
@[simp]
theorem markup_quote (text : Text) : markup (quote text) = [] := by
  induction text with
  | nil => rfl
  | cons c text inductionHypothesis =>
    rw [quote_cons, markup_append, markup_quoteChar, inductionHypothesis, List.append_nil]

/-- A requoted text holds no character of markup. -/
@[simp]
theorem markup_requote (text : Text) : markup (requote text) = [] :=
  markup_quote (decode text)

theorem not_mem_quote {c : Char} (isMark : isMarkup c = true) (text : Text) : c ∉ quote text := by
  intro member
  have kept : c ∈ markup (quote text) := List.mem_filter.2 ⟨member, isMark⟩
  rw [markup_quote] at kept
  exact List.not_mem_nil kept

theorem not_mem_requote {c : Char} (isMark : isMarkup c = true) (text : Text) :
    c ∉ requote text :=
  not_mem_quote isMark (decode text)

/-- A character that need not be written as an entity is quoted as it stands. -/
theorem quoteChar_of_plain {c : Char} (noAmpersand : c ≠ '&') (noMarkup : isMarkup c = false) :
    quoteChar c = [c] := by
  unfold quoteChar
  split <;> simp_all [isMarkup]

theorem quoteChar_ne_nil (c : Char) : quoteChar c ≠ [] := by
  unfold quoteChar
  split <;> simp

@[simp]
theorem quote_eq_nil_iff {text : Text} : quote text = [] ↔ text = [] := by
  cases text with
  | nil => simp
  | cons c text => simp [quoteChar_ne_nil]

@[simp]
theorem decode_eq_nil_iff {text : Text} : decode text = [] ↔ text = [] := by
  cases text with
  | nil => simp [decode]
  | cons c text =>
    simp only [decode, Text.substitute, Text.pieces, Text.piecesFrom, reduceCtorEq, iff_false]
    cases entity? (c :: text) <;> simp

/-- Only the empty text is requoted as the empty text. -/
@[simp]
theorem requote_eq_nil_iff {text : Text} : requote text = [] ↔ text = [] := by
  rw [requote, quote_eq_nil_iff, decode_eq_nil_iff]

end Entity

end Folio
