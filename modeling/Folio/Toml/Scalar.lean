import Folio.Toml.Moment
import Folio.Toml.Strings
import Folio.Value

/-!
# Scalars of configuration files

A scalar is a string, a truth value, a number or a moment.
-/

namespace Folio.Toml

/-- Whether a character may stand in a number or a word. -/
def isWordChar (c : Char) : Bool :=
  c.isAlphanum || c == '_' || c == '-' || c == '+' || c == '.' || c == ':'

/-- Reads a scalar that is not a string. -/
def bare? (text : Text) : Option (Value × Text) :=
  match Text.run isWordChar text with
  | (word, rest) =>
    if word = "true".toList then some (.boolean true, rest)
    else if word = "false".toList then some (.boolean false, rest)
    else if isInteger word || isFloat word then some (.number word, rest)
    else
      (moment? text).bind fun (written, rest) =>
        if rest.head?.any isWordChar then none else some (.moment written, rest)

/-- Reads a scalar. -/
def scalar? (text : Text) : Option (Value × Text) :=
  match text with
  | '"' :: _ => (string? text).map fun (content, rest) => (.text content, rest)
  | '\'' :: _ => (string? text).map fun (content, rest) => (.text content, rest)
  | _ => bare? text

end Folio.Toml
