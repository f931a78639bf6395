import Folio.Dictionary
import Folio.Unicode.LowerCase

/-!
# Tables of bodies

A site has four tables that give bodies to names: boxes, macros, settings and menu templates.
The names of macros and settings do not depend on letter case; box and menu names do.

A table has two layers. The lower layer holds the defaults and is shared by all pages; the upper
layer holds what one page declares. An entry with an empty body counts: it hides the entry below
it.
-/

namespace Folio

/-- How the names of a table are compared. -/
inductive NameCase where
  /-- As written. -/
  | exact
  /-- In lower case. -/
  | folded
deriving DecidableEq, Repr

/-- The form under which a name is stored and looked up. -/
def NameCase.key : NameCase → Text → Text
  | .exact, name => name
  | .folded, name => Unicode.lowerCase name

/-- The four kinds of table. -/
inductive TableKind where
  | boxes
  | macros
  | settings
  | menus
deriving DecidableEq, Repr

/-- How the names of each table are compared. -/
def TableKind.nameCase : TableKind → NameCase
  | .boxes => .exact
  | .macros => .folded
  | .settings => .folded
  | .menus => .exact

/-- The default bodies that all pages share. -/
structure Defaults where
  boxes : Dictionary
  macros : Dictionary
  settings : Dictionary
  menus : Dictionary
deriving DecidableEq, Repr

namespace Defaults

/-- Defaults without entries. -/
def empty : Defaults :=
  ⟨.empty, .empty, .empty, .empty⟩

/-- The defaults of one kind. -/
def of (defaults : Defaults) : TableKind → Dictionary
  | .boxes => defaults.boxes
  | .macros => defaults.macros
  | .settings => defaults.settings
  | .menus => defaults.menus

/-- Gives a default body to a name. -/
def insert (defaults : Defaults) (kind : TableKind) (name body : Text) : Defaults :=
  let put (dictionary : Dictionary) := dictionary.insert (kind.nameCase.key name) body
  match kind with
  | .boxes => { defaults with boxes := put defaults.boxes }
  | .macros => { defaults with macros := put defaults.macros }
  | .settings => { defaults with settings := put defaults.settings }
  | .menus => { defaults with menus := put defaults.menus }

/-- Gives default bodies to names in list order. -/
def insertAll (defaults : Defaults) (kind : TableKind) (entries : List (Text × Text)) :
    Defaults :=
  entries.foldl (fun defaults (name, body) => defaults.insert kind name body) defaults

end Defaults

/-- One table as a page sees it: its own declarations over the defaults. -/
structure Table where
  nameCase : NameCase
  defaults : Dictionary
  declared : Dictionary
deriving DecidableEq, Repr

namespace Table

/-- The form under which a name is stored and looked up. -/
def key (table : Table) (name : Text) : Text :=
  table.nameCase.key name

/-- The body of a name; a declaration of the page counts before a default. -/
def find? (table : Table) (name : Text) : Option Text :=
  (table.declared.find? (table.key name)).orElse fun _ => table.defaults.find? (table.key name)

/-- Declares a body for this page. -/
def declare (table : Table) (name body : Text) : Table :=
  { table with declared := table.declared.insert (table.key name) body }

/-- Both layers as one dictionary. -/
def toDictionary (table : Table) : Dictionary :=
  table.defaults.overlay table.declared

end Table

/-- The four tables that one page looks names up in. -/
structure Tables where
  boxes : Table
  macros : Table
  settings : Table
  menus : Table
deriving DecidableEq, Repr

/-- The tables of a page that has declared nothing yet. -/
def Defaults.tables (defaults : Defaults) : Tables where
  boxes := ⟨TableKind.boxes.nameCase, defaults.boxes, .empty⟩
  macros := ⟨TableKind.macros.nameCase, defaults.macros, .empty⟩
  settings := ⟨TableKind.settings.nameCase, defaults.settings, .empty⟩
  menus := ⟨TableKind.menus.nameCase, defaults.menus, .empty⟩

namespace Tables

/-- The table of one kind. -/
def of (tables : Tables) : TableKind → Table
  | .boxes => tables.boxes
  | .macros => tables.macros
  | .settings => tables.settings
  | .menus => tables.menus

/-- Declares a body for this page. -/
def declare (tables : Tables) (kind : TableKind) (name body : Text) : Tables :=
  match kind with
  | .boxes => { tables with boxes := tables.boxes.declare name body }
  | .macros => { tables with macros := tables.macros.declare name body }
  | .settings => { tables with settings := tables.settings.declare name body }
  | .menus => { tables with menus := tables.menus.declare name body }

end Tables

end Folio
