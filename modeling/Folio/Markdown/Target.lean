import Folio.Markdown.Line
import Folio.Text.Utf8
import Folio.Unicode.CaseFold

/-!
# Link targets and labels

The parts that inline links and link definitions share: the address of a link, and the label by
which a definition is found.
-/

namespace Folio.Markdown

/-- A link target with its title; no title is an empty one. -/
structure Target where
  address : Text
  title : Text
deriving DecidableEq, Repr

namespace Target

/-- The number of octets that a target takes in a page before it is quoted. -/
def size (target : Target) : Nat :=
  (Text.toUtf8 (target.address ++ target.title)).length

/-- Text up to an unescaped closing angle bracket, and what follows it. -/
def pointed? : Text → Option (Text × Text)
  | [] => none
  | '\\' :: c :: text =>
    if Unicode.isAsciiPunctuation c then
      (pointed? text).map fun (content, after) => ('\\' :: c :: content, after)
    else
      (pointed? (c :: text)).map fun (content, after) => ('\\' :: content, after)
  | c :: text =>
    if c = '>' then some ([], text)
    else if c = '<' ∨ c = '\n' ∨ c = '\r' then none
    else (pointed? text).map fun (content, after) => (c :: content, after)

/-- An address without angle brackets: it ends before a blank or before a closing parenthesis
that is not opened in it. In parentheses it may stand `deepest` levels deep and one more. -/
def bare? (deepest depth : Nat) : Text → Option (Text × Text)
  | [] => if depth = 0 then some ([], []) else none
  | '\\' :: c :: text =>
    if Unicode.isAsciiPunctuation c then
      (bare? deepest depth text).map fun (content, after) => ('\\' :: c :: content, after)
    else
      (bare? deepest depth (c :: text)).map fun (content, after) => ('\\' :: content, after)
  | c :: text =>
    if c.toNat ≤ 0x20 then
      if depth = 0 then some ([], c :: text) else none
    else if c = '(' then
      if depth > deepest then none
      else (bare? deepest (depth + 1) text).map fun (content, after) => (c :: content, after)
    else if c = ')' then
      if depth = 0 then some ([], c :: text)
      else (bare? deepest (depth - 1) text).map fun (content, after) => (c :: content, after)
    else (bare? deepest depth text).map fun (content, after) => (c :: content, after)

/-- Reads an address as it is written, between angle brackets or bare. -/
def address? (deepest : Nat) : Text → Option (Text × Text)
  | '<' :: text => pointed? text
  | text => bare? deepest 0 text

end Target

/-- Labels are compared without regard to letter case. -/
def normalLabel (label : Text) : Text :=
  Unicode.foldCase label

/-- The targets of labels; the first definition of a label counts. -/
abbrev Definitions := List (Text × Target)

/-- The target of a label. -/
def Definitions.target? (definitions : Definitions) (label : Text) : Option Target :=
  definitions.lookup (normalLabel label)

namespace Label

/-- Reads a run of blanks in a label, with at most one line ending in it: its size, where a
single space counts one and anything else more, its length with the margin, and what follows. -/
def blanks? (margin : Margin) : (fuel : Nat) → (broken : Bool) → Text → Option (Nat × Nat × Text)
  | 0, _, text => some (0, 0, text)
  | fuel + 1, broken, text =>
    match text with
    | [] => some (0, 0, [])
    | c :: rest =>
      if isAsciiBlank c then
        match lineEnd? text with
        | some (ending, after) =>
          if broken then none
          else do
            let count ← margin after
            let (size, length, rest) ← blanks? margin fuel true (after.drop count)
            some (size + 2, length + ending.length + count, rest)
        | none => do
          let (size, length, rest) ← blanks? margin fuel broken rest
          some (size + (if c = ' ' then 1 else 2), length + 1, rest)
      else some (0, 0, text)

/-- The weight that a label may not reach. -/
def weightLimit : Nat := 1000

/-- The weight of a character in a label; an ASCII character has none. -/
def weight (c : Char) : Nat :=
  if c.toNat < 0x80 then 0 else c.utf8Size

/-- Reads the rest of a label, of which `sum` is the weight so far and `filled` tells whether it
has anything but blanks and escaped signs. In a table a bar is written with a backslash. -/
def rest? (inTable : Bool) (margin : Margin) :
    (fuel sum : Nat) → (filled : Bool) → Text → Option (Text × Text)
  | 0, _, _, _ => none
  | fuel + 1, sum, filled, text =>
    if weightLimit ≤ sum then none
    else
      match text with
      | [] => none
      | '[' :: _ => none
      | ']' :: after => if filled then some ([], after) else none
      | '\\' :: '\\' :: after =>
        match inTable, after with
        | true, '|' :: after =>
          (rest? inTable margin fuel (sum + 3) filled after).map fun (label, after) =>
            ('\\' :: '|' :: label, after)
        | _, _ =>
          (rest? inTable margin fuel (sum + 2) filled after).map fun (label, after) =>
            ('\\' :: '\\' :: label, after)
      | '\\' :: c :: after =>
        if inTable && c == '|' then
          (rest? inTable margin fuel (sum + 1) filled after).map fun (label, after) =>
            ('|' :: label, after)
        else
          (rest? inTable margin fuel (sum + 2 + (weight c - 1)) (filled || 0 < weight c)
            after).map fun (label, after) => ('\\' :: c :: label, after)
      | c :: after =>
        if isAsciiBlank c then do
          let (size, length, next) ← blanks? margin text.length false text
          let (label, next) ← rest? inTable margin fuel (sum + length) filled next
          some ((if size > 1 then ' ' else c) :: label, next)
        else if c = '\\' then none
        else
          (rest? inTable margin fuel (sum + weight c) true after).map fun (label, after) =>
            (c :: label, after)

/-- Reads a label after its opening bracket, up to and including the closing one. A label holds
no bracket, its blanks count as single spaces, and it does not start or end with one. -/
def read? (inTable : Bool) (margin : Margin) (text : Text) : Option (Text × Text) :=
  (rest? inTable margin (text.length + 1) 0 false text).map fun (label, after) =>
    (Text.dropRightWhile isAsciiBlank (label.dropWhile isAsciiBlank), after)

end Label

end Folio.Markdown
