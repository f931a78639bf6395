import Folio.Text.Scan

/-!
# Character entities

`quote` writes a text so that it can stand inside a page: the five characters that markup is
made of are written as entities. `decode` reads the entities back that `quote` writes, and any
other decimal reference. `requote` is for text that may already hold entities: it decodes first,
so that no entity is written twice.
-/

namespace Folio.Entity

/-- The written form of a character inside a page. -/
def quoteChar : Char → Text
  | '&' => "&amp;".toList
  | '<' => "&lt;".toList
  | '>' => "&gt;".toList
  | '"' => "&quot;".toList
  | '\'' => "&#39;".toList
  | c => [c]

/-- A text with the characters of markup written as entities. -/
def quote (text : Text) : Text :=
  text.flatMap quoteChar

@[simp]
theorem quote_nil : quote [] = [] :=
  rfl

@[simp]
theorem quote_cons (c : Char) (text : Text) : quote (c :: text) = quoteChar c ++ quote text :=
  rfl

@[simp]
theorem quote_append (first second : Text) :
    quote (first ++ second) = quote first ++ quote second := by
  simp [quote]

/-- The characters that may stand between `&` and `;`. -/
def isNameChar (c : Char) : Bool :=
  c.isAlphanum || c == '#'

/-- The number that ASCII decimal digits write; nothing for any other text. -/
def number? (digits : Text) : Option Nat :=
  if digits ≠ [] ∧ digits.all Char.isDigit then
    some (digits.foldl (fun n c => 10 * n + (c.toNat - '0'.toNat)) 0)
  else
    none

/-- The character with a number, if there is one. -/
def charOfNat? (n : Nat) : Option Char :=
  if n.isValidChar then some (Char.ofNat n) else none

/-- The character that an entity name stands for: four names and the decimal references are
known. -/
def named? (name : Text) : Option Char :=
  if name = "amp".toList then some '&'
  else if name = "lt".toList then some '<'
  else if name = "gt".toList then some '>'
  else if name = "quot".toList then some '"'
  else
    match name with
    | '#' :: digits => (number? digits).bind charOfNat?
    | _ => none

/-- Recognises a known entity at the start of a text. -/
def entity? : Text.Recogniser Char
  | '&' :: text =>
    match Text.run isNameChar text with
    | (name, ';' :: after) => (named? name).map (·, after)
    | _ => none
  | _ => none

/-- A text with every known entity replaced by its character. -/
def decode (text : Text) : Text :=
  Text.substitute entity? (fun c => [c]) text

/-- The quoted form of a text that may already hold entities. -/
def requote (text : Text) : Text :=
  quote (decode text)

end Folio.Entity
