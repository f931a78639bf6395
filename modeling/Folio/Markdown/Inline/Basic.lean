import Folio.Markdown.Target

/-!
# Parts of running text

The parts of running text, as they are written into a page.
-/

namespace Folio.Markdown

/-- The kinds of emphasis. -/
inductive Emphasis where
  | light
  | strong
  | struck
deriving DecidableEq, Repr

/-- A part of running text. -/
inductive Inline where
  | text (content : Text)
  | code (content : Text)
  | raw (content : Text)
  | softBreak
  | hardBreak
  | emphasis (kind : Emphasis) (children : List Inline)
  | link (target : Target) (children : List Inline)
  | image (target : Target) (children : List Inline)
deriving Repr

end Folio.Markdown
