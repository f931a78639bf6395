import Folio.Toml.Scalar
import Folio.Toml.Tree

/-!
# Configuration files

A configuration file is a series of lines: headings of tables, headings of lists of tables, and
keys with their values. Values may be lists and tables again, which may go over several lines.
-/

namespace Folio.Toml

/-- How many lists and tables may stand one inside the other in a value. -/
def deepest : Nat := 80

mutual

/-- Reads a value, at most `fuel` levels and elements deep, in which at most `levels` lists and
tables stand one inside the other. -/
def value? : (fuel levels : Nat) → Text → Option (Value × Text)
  | 0, _, _ => none
  | fuel + 1, levels, text =>
    match text, levels with
    | '[' :: _, 0 => none
    | '\x7b' :: _, 0 => none
    | '[' :: text, levels + 1 => do
      let (items, text) ← items? fuel levels (dropSpace text)
      some (.list items, text)
    | '\x7b' :: text, levels + 1 => do
      let (entries, text) ← pairs? fuel levels [] (dropSpace text)
      some (.table (Node.entriesToValues entries), text)
    | _, _ => scalar? text

/-- Reads the rest of a list. -/
def items? : (fuel levels : Nat) → Text → Option (List Value × Text)
  | 0, _, _ => none
  | fuel + 1, levels, text =>
    match text with
    | ']' :: text => some ([], text)
    | _ => do
      let (item, text) ← value? fuel levels text
      match dropSpace text with
      | ',' :: text => do
        let (items, text) ← items? fuel levels (dropSpace text)
        some (item :: items, text)
      | ']' :: text => some ([item], text)
      | _ => none

/-- Reads the rest of a table in braces of which `entries` have been read. -/
def pairs? : (fuel levels : Nat) → Entries → Text → Option (Entries × Text)
  | 0, _, _, _ => none
  | fuel + 1, levels, entries, text =>
    match text with
    | '\x7d' :: text => some (entries, text)
    | _ => do
      let (key, text) ← key? text
      match text with
      | '=' :: text => do
        let (value, text) ← value? fuel levels (dropBlanks text)
        let entries ← entries.assign value key
        match dropSpace text with
        | ',' :: text => pairs? fuel levels entries (dropSpace text)
        | '\x7d' :: text => some (entries, text)
        | _ => none
      | _ => none

end

/-- A line of a configuration file. -/
inductive Statement where
  | heading (key : List Text)
  | element (key : List Text)
  | pair (key : List Text) (value : Value)
deriving Repr

/-- Reads a line that is not blank. -/
def statement? (text : Text) : Option (Statement × Text) :=
  match text with
  | '[' :: '[' :: text => do
    let (key, text) ← key? text
    let text ← Text.dropLead? [']', ']'] text
    some (.element key, text)
  | '[' :: text => do
    let (key, text) ← key? text
    let text ← Text.dropLead? [']'] text
    some (.heading key, text)
  | _ => do
    let (key, text) ← key? text
    let text ← Text.dropLead? ['='] text
    let (value, text) ← value? (text.length + 1) deepest (dropBlanks text)
    some (.pair key value, text)

/-- Reads all lines, at most `fuel`. -/
def statements? : (fuel : Nat) → Text → Option (List Statement)
  | 0, text => if (dropSpace text).isEmpty then some [] else none
  | fuel + 1, text =>
    match dropSpace text with
    | [] => some []
    | text => do
      let (statement, text) ← statement? text
      let text ← lineEnd? text
      let statements ← statements? fuel text
      some (statement :: statements)

/-- What has been read of a file: the outermost table, and the heading that keys belong to. -/
structure Building where
  entries : Entries
  heading : List Text

/-- Adds a line. -/
def Building.add (building : Building) : Statement → Option Building
  | .heading key => (building.entries.startTable key).map (⟨·, key⟩)
  | .element key => (building.entries.startElement key).map (⟨·, key⟩)
  | .pair key value =>
    (building.entries.assignIn building.heading key value).map (⟨·, building.heading⟩)

/-- Reads a configuration file. A byte order mark at its start does not count. -/
def document? (text : Text) : Option (List (Text × Value)) := do
  let text := if text.head? = some '\ufeff' then text.drop 1 else text
  let statements ← statements? (text.length + 1) text
  let building ← statements.foldlM Building.add ⟨[], []⟩
  some (Node.entriesToValues building.entries)

end Folio.Toml
