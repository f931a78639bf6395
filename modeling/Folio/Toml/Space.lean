import Folio.Text.Basic

/-!
# Space in configuration files

Blanks, comments and line endings. They may stand between the parts of a configuration file, and
none of them says anything.
-/

namespace Folio.Toml

/-- Whether a character is a space or a tab. -/
def isBlank (c : Char) : Bool :=
  c == ' ' || c == '\t'

/-- Whether a character may stand in a comment or a string as it is; line endings may not. -/
def isPlain (c : Char) : Bool :=
  c == '\t' || (0x20 ≤ c.toNat && c.toNat != 0x7F)

/-- The text without its leading spaces and tabs. -/
def dropBlanks (text : Text) : Text :=
  text.dropWhile isBlank

/-- What follows a line ending. -/
def lineEnding? : Text → Option Text
  | '\r' :: '\n' :: text => some text
  | '\n' :: text => some text
  | _ => none

/-- What follows blanks and a comment, if either is there. -/
def dropComment (text : Text) : Text :=
  match dropBlanks text with
  | '#' :: rest => rest.dropWhile isPlain
  | rest => rest

/-- What follows the blanks, comments and line endings at the start of a text, at most `fuel`
lines of them. -/
def dropLines : (fuel : Nat) → Text → Text
  | 0, text => dropComment text
  | fuel + 1, text =>
    match lineEnding? (dropComment text) with
    | some rest => dropLines fuel rest
    | none => dropComment text

/-- What follows all blanks, comments and line endings at the start of a text. -/
def dropSpace (text : Text) : Text :=
  dropLines text.length text

/-- What follows the end of the line; the end of the text ends a line too. -/
def lineEnd? (text : Text) : Option Text :=
  match dropComment text with
  | [] => some []
  | rest => lineEnding? rest

end Folio.Toml
