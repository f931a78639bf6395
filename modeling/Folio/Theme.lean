import Folio.Menu.Stored

/-!
# Themes

A theme is what all pages of a site share: the name of the product, its logos and the menu. It
is stored as a table with the fields `name`, `logo`, `docs_logo` and `doc_menu`, the last of
which may also be called `menu`, or as a list of these four in order.
-/

namespace Folio

/-- A theme. -/
structure Theme where
  name : Option Text
  logo : Option Text
  docsLogo : Option Text
  menu : List MenuEntry
deriving Repr

namespace Theme

/-- The theme of a site that says nothing about itself. -/
def plain : Theme := ⟨none, none, none, []⟩

/-- Reads the menu of a theme from its fields. It may stand under either of its two names, but
not under both. -/
def menuAmong? (entries : List (Text × Value)) : Option (List MenuEntry) :=
  match entries.lookup "doc_menu".toList, entries.lookup "menu".toList with
  | none, none => some []
  | some menu, none => MenuEntry.menuOfValue? false menu
  | none, some menu => MenuEntry.menuOfValue? false menu
  | some _, some _ => none

/-- Reads a stored theme. -/
def ofValue? : Value → Option Theme
  | .table entries => do
    let name ← Value.optionalText? (entries.lookup "name".toList)
    let logo ← Value.optionalText? (entries.lookup "logo".toList)
    let docsLogo ← Value.optionalText? (entries.lookup "docs_logo".toList)
    let menu ← menuAmong? entries
    some ⟨name, logo, docsLogo, menu⟩
  | .list items => do
    let name ← Value.optionalText? items[0]?
    let logo ← Value.optionalText? items[1]?
    let docsLogo ← Value.optionalText? items[2]?
    let menu ← (items[3]?.map (MenuEntry.menuOfValue? false)).getD (some [])
    if items.length ≤ 4 then some ⟨name, logo, docsLogo, menu⟩ else none
  | _ => none

/-- Stores a theme. Absent texts are null. -/
def toValue (theme : Theme) : Value :=
  .table
    [("name".toList, .ofOptionalText theme.name),
     ("logo".toList, .ofOptionalText theme.logo),
     ("docs_logo".toList, .ofOptionalText theme.docsLogo),
     ("doc_menu".toList, .list (MenuEntry.toValues theme.menu))]

end Theme

end Folio
