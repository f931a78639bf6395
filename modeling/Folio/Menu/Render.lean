import Folio.Menu.Basic
import Folio.Notice
import Folio.Placeholder
import Folio.Table.Basic

/-!
# Menus as markup

Entries are written with four templates: one for dropdowns at the top, one for dropdowns inside
a dropdown, one for links and one for dividers. A leaf that cannot be linked is written as a notice,
and so is an entry whose template is missing.
-/

namespace Folio

/-- Markup with the notices that arose while it was made. -/
structure Noticed where
  html : Text
  notices : List Notice
deriving DecidableEq, Repr

namespace Noticed

/-- A notice that stands for the markup that could not be made. -/
def ofNotice (notice : Notice) : Noticed :=
  ⟨notice.fragment, [notice]⟩

/-- Pieces of markup, each on a line of its own, with all their notices. -/
def lines (parts : List Noticed) : Noticed :=
  ⟨Text.joinWith ['\n'] (parts.map Noticed.html), parts.flatMap Noticed.notices⟩

end Noticed

namespace MenuEntry

/-- The name of the template for dropdowns at a depth. -/
def dropdownTemplate (depth : Nat) : Text :=
  if depth = 0 then "top-dropdown".toList else "inner-dropdown".toList

/-- The name of the template for a leaf of a name. -/
def leafTemplate (name : Text) : Text :=
  if isDividerName name then "divider".toList else "item".toList

/-- The template of a name with values filled in. Only the items of a dropdown are finished
markup. -/
def fillTemplate (menus : Table) (template : Text) (values : List (Text × Text)) : Noticed :=
  match menus.find? template with
  | some body => ⟨Placeholder.fill (.ofList values) ["ITEMS".toList] body, []⟩
  | none => .ofNotice (.unknownMenuTemplate template)

/-- The values for the template of a leaf, or the notice that stands for a leaf without a link that
it could be written with. -/
def leafValues (name : Text) : Option Text → Except Notice (List (Text × Text))
  | some path =>
    if isValidLink path then .ok [("NAME".toList, name), ("LINK".toList, path)]
    else .error (.invalidLink path)
  | none =>
    if isDividerName name then .ok [("NAME".toList, name)] else .error (.missingLink name)

/-- A leaf as markup. -/
def renderLeaf (menus : Table) (name : Text) (path : Option Text) : Noticed :=
  match leafValues name path with
  | .ok values => fillTemplate menus (leafTemplate name) values
  | .error notice => .ofNotice notice

/-- A group as markup, around its children; their notices come first. -/
def renderGroup (menus : Table) (depth : Nat) (name : Text) (children : Noticed) : Noticed :=
  let group :=
    fillTemplate menus (dropdownTemplate depth)
      [("NAME".toList, name), ("ITEMS".toList, children.html)]
  ⟨group.html, children.notices ++ group.notices⟩

mutual

/-- An entry at a depth as markup. -/
def render (menus : Table) (depth : Nat) : MenuEntry → Noticed
  | .leaf name path => renderLeaf menus name path
  | .group name _ children =>
    renderGroup menus depth name (.lines (renderEach menus (depth + 1) children))

/-- Entries at a depth as markup. -/
def renderEach (menus : Table) (depth : Nat) : List MenuEntry → List Noticed
  | [] => []
  | entry :: rest => entry.render menus depth :: renderEach menus depth rest

end

end MenuEntry

/-- A whole menu as markup. -/
def renderMenu (menus : Table) (menu : List MenuEntry) : Noticed :=
  .lines (MenuEntry.renderEach menus 0 menu)

end Folio
