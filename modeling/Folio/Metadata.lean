import Folio.Entity

/-!
# Metadata of a page

The title of a page that does not give one is the text of its first level-one heading without
markup inside, and its description is the first paragraph that stands on one line.
-/

namespace Folio

/-- The detected title and description, requoted. -/
structure Metadata where
  title : Option Text
  description : Option Text
deriving DecidableEq, Repr

namespace Metadata

/-- Whether a character can stand in a tag or in text, but not begin or end a tag. -/
def isInsideTag (c : Char) : Bool :=
  !(c == '<' || c == '>')

/-- Recognises a level-one heading that holds text alone. -/
def heading? (text : Text) : Option (Text × Text) := do
  let text ← Text.dropLead? "<h1".toList text
  match text.dropWhile isInsideTag with
  | '>' :: text =>
    match Text.run isInsideTag text with
    | ([], _) => none
    | (content, text) => (Text.dropLead? "</h1>".toList text).map (content, ·)
  | _ => none

/-- The text up to the first paragraph end on the same line. -/
def paragraphText? : Text → Option (Text × Text)
  | [] => none
  | c :: text =>
    match Text.dropLead? "</p>".toList (c :: text) with
    | some after => some ([], after)
    | none =>
      if c = '\n' then none
      else (paragraphText? text).map fun (content, after) => (c :: content, after)

/-- Recognises a paragraph on one line. Its first character belongs to its text, even where a
paragraph end starts there. -/
def paragraph? (text : Text) : Option (Text × Text) := do
  match ← Text.dropLead? "<p>".toList text with
  | [] => none
  | c :: text =>
    if c = '\n' then none
    else (paragraphText? text).map fun (content, after) => (c :: content, after)

/-- Detects the title and the description of a page. -/
def detect (html : Text) : Metadata where
  title := (Text.firstItem? heading? html).map Entity.requote
  description := (Text.firstItem? paragraph? html).map Entity.requote

end Metadata

end Folio
