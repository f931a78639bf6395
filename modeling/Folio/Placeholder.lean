import Folio.Dictionary
import Folio.Entity
import Folio.Unicode.Word

/-!
# Placeholders

A placeholder is a name of word characters between two `@`. `fill` replaces each one by the
value of its name. A value is requoted unless its name is listed as holding finished markup, and
a name without a value gives nothing. Values are never searched for placeholders.
-/

namespace Folio.Placeholder

/-- Recognises a placeholder at the start of a text and gives its name. -/
def placeholder? : Text.Recogniser Text
  | '@' :: text =>
    match Text.run Unicode.isWordChar text with
    | ([], _) => none
    | (name, '@' :: after) => some (name, after)
    | _ => none
  | _ => none

/-- What stands in for a placeholder. -/
def value (values : Dictionary) (markup : List Text) (name : Text) : Text :=
  let text := (values.find? name).getD []
  if markup.contains name then text else Entity.requote text

/-- A template with every placeholder replaced; the names in `markup` hold finished markup. -/
def fill (values : Dictionary) (markup : List Text) (template : Text) : Text :=
  Text.substitute placeholder? (value values markup) template

@[simp]
theorem fill_nil (values : Dictionary) (markup : List Text) : fill values markup [] = [] :=
  rfl

end Folio.Placeholder
