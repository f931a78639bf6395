import Folio.Link.Rule
import Folio.Text.Lines

/-!
# Bare links

A line that holds nothing but a link becomes the command of the first rule that fits the link.
All other lines, and all line endings, stay as they are.
-/

namespace Folio

/-- Whether a character may stand around a bare link. -/
def isLinkPadding (c : Char) : Bool :=
  c == ' ' || c == '\t'

/-- The text of a link without its scheme. -/
def dropScheme? (text : Text) : Option Text :=
  match Text.dropLead? "http://".toList text with
  | some rest => some rest
  | none => Text.dropLead? "https://".toList text

/-- The link of a line that holds nothing else, without its scheme. -/
def bareLink? (content : Text) : Option Text := do
  let rest ← dropScheme? (content.dropWhile isLinkPadding)
  match Text.run (fun c => !Unicode.isBlank c) rest with
  | ([], _) => none
  | (link, padding) => if padding.all isLinkPadding then some link else none

/-- The command of the first rule that fits a link. -/
def firstExpansion? (rules : List LinkRule) (link : Text) : Option Text :=
  rules.findSome? (·.expand? link)

/-- A line with a bare link turned into a command. -/
def normalizeLine (rules : List LinkRule) (content : Text) : Text :=
  ((bareLink? content).bind (firstExpansion? rules)).getD content

/-- A text with the bare links of all lines turned into commands. -/
def normalizeLinks (rules : List LinkRule) (source : Text) : Text :=
  Text.ofLines <|
    (Text.lines source).map fun line => { line with content := normalizeLine rules line.content }

end Folio
