import Folio.Text.Basic

/-!
# Structured values

The values that configuration files and stored themes are made of. A record is read from a table
by the names of its fields, or from a list by their order.
-/

namespace Folio

/-- A structured value. A number and a moment in time are kept in a written form. -/
inductive Value where
  | null
  | boolean (value : Bool)
  | number (written : Text)
  | moment (written : Text)
  | text (content : Text)
  | list (items : List Value)
  | table (entries : List (Text × Value))
deriving Inhabited, Repr

namespace Value

/-- The content of a text. -/
def text? : Value → Option Text
  | .text content => some content
  | _ => none

/-- The content of a text that may be absent: null, or no value at all. -/
def optionalText? : Option Value → Option (Option Text)
  | none => some none
  | some .null => some none
  | some (.text content) => some (some content)
  | some _ => none

/-- The name of the one field that a moment in time has where a table is asked for. -/
def momentField : Text := "$__toml_private_datetime".toList

/-- The fields of a record: those of a table, or the items of a list as the fields `names` in
order. Items past the last field are passed over. -/
def fields? (names : List Text) : Value → Option (List (Text × Value))
  | .table entries => some entries
  | .list items => some (names.zip items)
  | .moment written => some [(momentField, .text written)]
  | _ => none

/-- Names with their texts, from a table that holds nothing but texts. -/
def texts? : Value → Option (List (Text × Text))
  | .table entries => entries.mapM fun (name, value) => value.text?.map (name, ·)
  | .moment written => some [(momentField, written)]
  | _ => none

/-- A text that may be absent. -/
def ofOptionalText : Option Text → Value
  | none => .null
  | some content => .text content

@[simp]
theorem optionalText?_ofOptionalText (content : Option Text) :
    optionalText? (some (ofOptionalText content)) = some content := by
  cases content <;> rfl

end Value

end Folio
