import Folio.Text.Basic
import Folio.Unicode.Printable

/-!
# Quoted texts

A text in messages stands between quotation marks. A quotation mark and a backslash inside have
a backslash before them, four control characters have a short form, and every other character
that cannot be shown, or that would attach itself to the character before it, is written by
number.
-/

namespace Folio.Text

/-- A number in hexadecimal, in small letters. -/
def hex (n : Nat) : Text :=
  Nat.toDigits 16 n

/-- A character inside a quoted text. -/
def quotedChar (c : Char) : Text :=
  if c = '"' then ['\\', '"']
  else if c = '\\' then ['\\', '\\']
  else if c = '\n' then ['\\', 'n']
  else if c = '\r' then ['\\', 'r']
  else if c = '\t' then ['\\', 't']
  else if c = '\x00' then ['\\', '0']
  else if Unicode.isPrintable c && !Unicode.isExtending c then [c]
  else "\\u\x7b".toList ++ hex c.toNat ++ "\x7d".toList

/-- A text between quotation marks. -/
def quoted (text : Text) : Text :=
  '"' :: text.flatMap quotedChar ++ ['"']

end Folio.Text
