import Folio.Markdown.Block.Reader
import Folio.Markdown.Inline.Reader

/-!
# Documents

A document is read in two passes: its blocks first, which gives all link definitions, and then
the running text in them. Targets of labels may be used many times, so how much all of them
together add to a page is bounded: from the place on where nothing is left of the allowance, a
label leads nowhere.
-/

namespace Folio.Markdown

/-- The octets that targets of labels may take in a page at least. -/
def leastAllowance : Nat := 100000

/-- The octets that targets of labels may take in the page of a text. -/
def allowance (text : Text) : Nat :=
  max leastAllowance (Text.toUtf8 text).length

/-- The blocks that a text spells, with the running text in them. -/
def document (smart : Bool) (text : Text) : List (Block (List Inline)) :=
  let state := BlockState.ofText text
  let style : InlineStyle := ⟨smart, state.definitions⟩
  (Block.readContentAll (Prose.inlines style) state.blocks.reverse (allowance text)).1

end Folio.Markdown
