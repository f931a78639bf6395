import Folio.Text.Scan
import Folio.Unicode.LowerCase

/-!
# Attribute lists

The attributes of a tag, as in `data-name="note" class='box wide' hidden`. An attribute is
`key="value"`, `key='value'`, `key=value` or a bare flag, and attributes are separated by
whitespace. Reading never fails: a quoted value that is not closed is read as a bare one, and a
word without a key is a flag.
-/

namespace Folio

/-- One attribute as it is stored: its key is in lower case. -/
structure Attribute where
  key : Text
  value : Text
deriving DecidableEq, Repr

namespace Attribute

/-- The value that a bare flag stands for. -/
def flagValue : Text := "true".toList

/-- A value between two quotation marks, and what follows the second. -/
def quotedValue? (mark : Char) : Text → Option (Text × Text)
  | c :: text => if c = mark then Text.cutAt? [mark] text else none
  | [] => none

/-- The value after an equals sign, and what follows it. -/
def readValue (text : Text) : Text × Text :=
  match quotedValue? '"' text with
  | some value => value
  | none =>
    match quotedValue? '\'' text with
    | some value => value
    | none => Text.run (fun c => !Unicode.isBlank c) text

/-- Reads `key=value` at the start of a text. The key is not empty and holds no whitespace. -/
def keyed? (text : Text) : Option (Text × Text × Text) :=
  match Text.run (fun c => !(c == '=' || Unicode.isBlank c)) text with
  | ([], _) => none
  | (key, '=' :: text) => some (key, readValue text)
  | _ => none

/-- Recognises the attribute at the start of a text; there is one wherever the text starts with
a character other than whitespace. -/
def attribute? : Text.Recogniser Attribute
  | [] => none
  | c :: text =>
    if Unicode.isBlank c then none
    else
      match keyed? (c :: text) with
      | some (key, value, after) => some (⟨Unicode.lowerCase key, value⟩, after)
      | none =>
        let (flag, after) := Text.run (fun c => !Unicode.isBlank c) (c :: text)
        some (⟨Unicode.lowerCase flag, flagValue⟩, after)

/-- The attributes of a text in the order in which they are written. -/
def list (text : Text) : List Attribute :=
  Text.items attribute? text

/-- The value of a key; the last attribute of that key counts. -/
def lookup? (key : Text) (attributes : List Attribute) : Option Text :=
  (attributes.reverse.find? (·.key = key)).map Attribute.value

end Attribute

end Folio
