import Folio.Entity
import Folio.Markdown.NamedCharacter
import Folio.Unicode.Punctuation

/-!
# Character references and escapes

Markdown writes a character by name (`&copy;`), by decimal number (`&#169;`) or by hexadecimal
number (`&#xA9;`), and keeps a sign of punctuation from having a meaning by a backslash before
it. Both are read in running text, in link targets and titles and in the names of code
languages.
-/

namespace Folio.Markdown

/-- Whether a character is a space or a tab. -/
def isSpaceOrTab (c : Char) : Bool :=
  c == ' ' || c == '\t'

/-- Whether a character is an ASCII space character that does not end a line. -/
def isLineBlank (c : Char) : Bool :=
  c == ' ' || c == '\t' || c == '\x0b' || c == '\x0c'

/-- Whether a character is an ASCII space character, the line endings included. -/
def isAsciiBlank (c : Char) : Bool :=
  isLineBlank c || c == '\n' || c == '\r'

/-- Whether a character is a hexadecimal digit. -/
def isHexDigit (c : Char) : Bool :=
  c.isDigit || ('a' ≤ c && c ≤ 'f') || ('A' ≤ c && c ≤ 'F')

/-- The character of a number that a reference writes; the replacement character stands for zero
and for numbers without a character. -/
def referencedChar (n : Nat) : Char :=
  if n = 0 then '\ufffd' else (Entity.charOfNat? n).getD '\ufffd'

/-- What the text between `&` and `;` stands for. -/
def referenced? (name : Text) : Option Text :=
  match name with
  | '#' :: 'x' :: digits => hexadecimal? digits
  | '#' :: 'X' :: digits => hexadecimal? digits
  | '#' :: digits =>
    if digits.length ≤ 7 then (Entity.number? digits).map fun n => [referencedChar n] else none
  | _ => namedCharacter? name
where
  hexadecimal? (digits : Text) : Option Text :=
    if digits.isEmpty || digits.length > 6 || !digits.all isHexDigit then none
    else some [referencedChar (hexNumber digits)]

/-- Recognises a character reference at the start of a text. -/
def reference? : Text.Recogniser Text
  | '&' :: text =>
    match Text.run Entity.isNameChar text with
    | (name, ';' :: after) => (referenced? name).map (·, after)
    | _ => none
  | _ => none

/-- Recognises an escaped sign or a character reference at the start of a text. A carriage return
stands for nothing, and in a table a bar may have two backslashes before it. -/
def literal? (inTable : Bool) : Text.Recogniser Text
  | '\\' :: '\\' :: '|' :: text =>
    if inTable then some (['|'], text) else some (['\\'], '|' :: text)
  | '\\' :: c :: text => if Unicode.isAsciiPunctuation c then some ([c], text) else none
  | '\r' :: text => some ([], text)
  | text => reference? text

/-- A text with its escapes and character references replaced. -/
def unescape (inTable : Bool) (text : Text) : Text :=
  Text.substitute (literal? inTable) id text

end Folio.Markdown
