import Folio.Config.Expansion
import Folio.Theme
import Folio.Toml.Document

/-!
# What a configuration file says

A configuration file has three sections: `render` with the paths, `theme` with the name of the
product, its logos and the menu, and `defaults` with bodies for the four tables. Everything may
be left out, and what is not known is passed over; what is there must be of the right kind.
-/

namespace Folio.Config

/-- Bodies for the four tables. -/
structure Bodies where
  boxes : List (Text × Text)
  macros : List (Text × Text)
  settings : List (Text × Text)
  menus : List (Text × Text)
deriving DecidableEq, Repr

/-- What a configuration file says, in its own words: no variable is replaced, and no path is
resolved. -/
structure Stored where
  template : Option Text
  outputDirectory : Option Text
  theme : Theme
  bodies : Bodies
deriving Repr

namespace Stored

/-- Reads a section; a section that is left out has no fields. -/
def section? (names : List Text) (name : Text) (entries : List (Text × Value)) :
    Option (List (Text × Value)) :=
  match entries.lookup name with
  | some value => value.fields? names
  | none => some []

/-- Reads a text that may be left out. Unlike in a stored theme, nothing may be null. -/
def textAt? (name : Text) (fields : List (Text × Value)) : Option (Option Text) :=
  match fields.lookup name with
  | some value => value.text?.map some
  | none => some none

/-- Reads a menu that may be left out. -/
def menuAt? (name : Text) (fields : List (Text × Value)) : Option (List MenuEntry) :=
  match fields.lookup name with
  | some value => MenuEntry.menuOfValue? true value
  | none => some []

/-- Reads the bodies of a table that may be left out. -/
def bodiesAt? (name : Text) (fields : List (Text × Value)) : Option (List (Text × Text)) :=
  match fields.lookup name with
  | some value => value.texts?
  | none => some []

/-- Reads the section `theme`. -/
def theme? (entries : List (Text × Value)) : Option Theme := do
  let name := "name".toList
  let logo := "logo".toList
  let docsLogo := "docs_logo".toList
  let menu := "menu".toList
  let fields ← section? [name, logo, docsLogo, menu] "theme".toList entries
  some ⟨← textAt? name fields, ← textAt? logo fields, ← textAt? docsLogo fields,
    ← menuAt? menu fields⟩

/-- Reads the section `defaults`. -/
def bodies? (entries : List (Text × Value)) : Option Bodies := do
  let boxes := "boxes".toList
  let macros := "macros".toList
  let settings := "settings".toList
  let menus := "menus".toList
  let fields ← section? [boxes, macros, settings, menus] "defaults".toList entries
  some ⟨← bodiesAt? boxes fields, ← bodiesAt? macros fields, ← bodiesAt? settings fields,
    ← bodiesAt? menus fields⟩

/-- Reads the entries of a configuration file. -/
def ofEntries? (entries : List (Text × Value)) : Option Stored := do
  let template := "template".toList
  let outputDirectory := "output_dir".toList
  let fields ← section? [template, outputDirectory] "render".toList entries
  some ⟨← textAt? template fields, ← textAt? outputDirectory fields, ← theme? entries,
    ← bodies? entries⟩

/-- Reads a configuration file. -/
def ofText? (text : Text) : Option Stored :=
  (Toml.document? text).bind ofEntries?

/-- The names of the variables that a configuration refers to. -/
def variableNames (stored : Stored) : List Text :=
  [stored.theme.name, stored.theme.logo, stored.theme.docsLogo].flatMap fun value =>
    (value.map variablesOf).getD []

end Stored

end Folio.Config
