import Folio.Entity
import Folio.Toml.Number
import Folio.Toml.Space

/-!
# Strings and keys of configuration files

There are four kinds of strings: on one line or on several, with or without escapes. A key is a
series of parts with dots between them; each part is a bare word or a string on one line.
Readers take a string or a key from the start of a text; nothing is given back for a text that
is not in order.
-/

namespace Folio.Toml

/-- The character whose number is written with a fixed count of hexadecimal digits. -/
def numbered? (count : Nat) (text : Text) : Option (Char × Text) :=
  let digits := text.take count
  if digits.length = count && digits.all isHex then
    (Entity.charOfNat? (numberOf 16 digits)).map (·, text.drop count)
  else none

/-- Reads an escape after its backslash. -/
def escape? : Text → Option (Char × Text)
  | 'b' :: text => some ('\x08', text)
  | 't' :: text => some ('\t', text)
  | 'n' :: text => some ('\n', text)
  | 'f' :: text => some ('\x0c', text)
  | 'r' :: text => some ('\r', text)
  | 'e' :: text => some ('\x1b', text)
  | '"' :: text => some ('"', text)
  | '\\' :: text => some ('\\', text)
  | 'x' :: text => numbered? 2 text
  | 'u' :: text => numbered? 4 text
  | 'U' :: text => numbered? 8 text
  | _ => none

/-- Reads the rest of a string on one line, at most `fuel` characters of it. -/
def basic? : (fuel : Nat) → Text → Option (Text × Text)
  | 0, _ => none
  | fuel + 1, text =>
    match text with
    | '"' :: rest => some ([], rest)
    | '\\' :: rest => do
      let (c, rest) ← escape? rest
      let (content, rest) ← basic? fuel rest
      some (c :: content, rest)
    | c :: rest =>
      if isPlain c then do
        let (content, rest) ← basic? fuel rest
        some (c :: content, rest)
      else none
    | [] => none

/-- Reads the rest of a string on one line in which nothing is escaped. -/
def literal? (text : Text) : Option (Text × Text) :=
  match Text.run (fun c => isPlain c && c != '\'') text with
  | (content, '\'' :: rest) => some (content, rest)
  | _ => none

/-- What follows the first line ending right after the opening marks of a string over several
lines. -/
def dropFirstEnding (text : Text) : Text :=
  (lineEnding? text).getD text

/-- The end of a string over several lines: three marks, before which one or two more may belong
to the string. -/
def threeMarks? (mark : Char) (text : Text) : Option (Text × Text) :=
  let (marks, rest) := Text.run (· == mark) text
  if 3 ≤ marks.length ∧ marks.length ≤ 5 then some (marks.drop 3, rest) else none

/-- What follows the blanks and line endings at the start of a text, at most `fuel` lines of
them. -/
def dropEmptyLines : (fuel : Nat) → Text → Text
  | 0, text => dropBlanks text
  | fuel + 1, text =>
    match lineEnding? (dropBlanks text) with
    | some rest => dropEmptyLines fuel rest
    | none => dropBlanks text

/-- What follows an escaped line ending with all blanks and line endings after it. -/
def continuedLine? (text : Text) : Option Text :=
  (lineEnding? (dropBlanks text)).map fun rest => dropEmptyLines rest.length rest

/-- Reads the rest of a string over several lines, at most `fuel` characters of it. -/
def basicLines? : (fuel : Nat) → Text → Option (Text × Text)
  | 0, _ => none
  | fuel + 1, text =>
    match text with
    | '"' :: rest =>
      match threeMarks? '"' text with
      | some found => some found
      | none =>
        if Text.startsWith ['"', '"', '"'] text then none
        else do
          let (content, rest) ← basicLines? fuel rest
          some ('"' :: content, rest)
    | '\\' :: rest =>
      match continuedLine? rest with
      | some rest => basicLines? fuel rest
      | none => do
        let (c, rest) ← escape? rest
        let (content, rest) ← basicLines? fuel rest
        some (c :: content, rest)
    | '\r' :: '\n' :: rest => do
      let (content, rest) ← basicLines? fuel rest
      some ('\r' :: '\n' :: content, rest)
    | c :: rest =>
      if isPlain c || c == '\n' then do
        let (content, rest) ← basicLines? fuel rest
        some (c :: content, rest)
      else none
    | [] => none

/-- Reads the rest of a string over several lines in which nothing is escaped. -/
def literalLines? : Text → Option (Text × Text)
  | [] => none
  | c :: rest =>
    if c = '\'' then
      match threeMarks? '\'' (c :: rest) with
      | some found => some found
      | none =>
        if Text.startsWith ['\'', '\'', '\''] (c :: rest) then none
        else (literalLines? rest).map fun (content, rest) => ('\'' :: content, rest)
    else if isPlain c || c == '\n' || (c == '\r' && rest.head? == some '\n') then
      (literalLines? rest).map fun (content, rest) => (c :: content, rest)
    else none

/-- Reads a string of any kind. -/
def string? : Text → Option (Text × Text)
  | '"' :: '"' :: '"' :: text =>
    let text := dropFirstEnding text
    basicLines? (text.length + 1) text
  | '\'' :: '\'' :: '\'' :: text => literalLines? (dropFirstEnding text)
  | '"' :: text => basic? (text.length + 1) text
  | '\'' :: text => literal? text
  | _ => none

/-- Whether a character may stand in a key without quotation marks. -/
def isKeyChar (c : Char) : Bool :=
  c.isAlphanum || c == '_' || c == '-'

/-- Reads one part of a key. -/
def keyPart? (text : Text) : Option (Text × Text) :=
  match text with
  | '"' :: rest => basic? (rest.length + 1) rest
  | '\'' :: rest => literal? rest
  | _ =>
    match Text.run isKeyChar text with
    | ([], _) => none
    | found => some found

/-- Reads a key of at most `fuel` parts with dots between them. -/
def keyWithin? : (fuel : Nat) → Text → Option (List Text × Text)
  | 0, _ => none
  | fuel + 1, text => do
    let (part, text) ← keyPart? (dropBlanks text)
    match dropBlanks text with
    | '.' :: text => do
      let (parts, text) ← keyWithin? fuel text
      some (part :: parts, text)
    | text => some ([part], text)

/-- Reads a key. -/
def key? (text : Text) : Option (List Text × Text) :=
  keyWithin? (text.length + 1) text

end Folio.Toml
