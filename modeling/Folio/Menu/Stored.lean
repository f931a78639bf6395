import Folio.Menu.Basic
import Folio.Value

/-!
# Stored menus

A menu entry is stored as a table with the fields `name`, `path` and `subitems`, or as a list of
these three in order. Path and subitems may be absent or null; an entry with subitems is a
group. Other fields are passed over.
-/

namespace Folio.MenuEntry

/-- The entry with the given parts. -/
def ofParts (name : Text) (path : Option Text) (children : Option (List MenuEntry)) : MenuEntry :=
  match children with
  | none => .leaf name path
  | some children => .group name path children

mutual

/-- Reads a stored entry. Items of a list past the third are refused unless `spare` allows
them. -/
def ofValue? (spare : Bool) : Value → Option MenuEntry
  | .table entries => do
    let name ← (entries.lookup "name".toList).bind Value.text?
    let path ← Value.optionalText? (entries.lookup "path".toList)
    let children ← childrenAmong? spare entries
    some (ofParts name path children)
  | .list [name] => do
    let name ← name.text?
    some (ofParts name none none)
  | .list [name, path] => do
    let name ← name.text?
    let path ← Value.optionalText? (some path)
    some (ofParts name path none)
  | .list (name :: path :: children :: rest) => do
    let name ← name.text?
    let path ← Value.optionalText? (some path)
    let children ← children? spare children
    if spare || rest.isEmpty then some (ofParts name path children) else none
  | _ => none

/-- Reads the children of an entry from its fields. -/
def childrenAmong? (spare : Bool) : List (Text × Value) → Option (Option (List MenuEntry))
  | [] => some none
  | (key, value) :: rest =>
    if key = "subitems".toList then children? spare value else childrenAmong? spare rest

/-- Reads the children of an entry; null is the absence of children. -/
def children? (spare : Bool) : Value → Option (Option (List MenuEntry))
  | .null => some none
  | .list items => (ofValues? spare items).map some
  | _ => none

/-- Reads stored entries. -/
def ofValues? (spare : Bool) : List Value → Option (List MenuEntry)
  | [] => some []
  | value :: rest => do
    let entry ← ofValue? spare value
    let entries ← ofValues? spare rest
    some (entry :: entries)

end

/-- The field of a path, if there is one. -/
def pathField (path : Option Text) : List (Text × Value) :=
  path.toList.map fun path => ("path".toList, .text path)

mutual

/-- Stores an entry; absent parts are left out. -/
def toValue : MenuEntry → Value
  | .leaf name path => .table (("name".toList, .text name) :: pathField path)
  | .group name path children =>
    .table
      (("name".toList, .text name) ::
        (pathField path ++ [("subitems".toList, .list (toValues children))]))

/-- Stores entries. -/
def toValues : List MenuEntry → List Value
  | [] => []
  | entry :: rest => entry.toValue :: toValues rest

end

/-- Reads a stored menu. -/
def menuOfValue? (spare : Bool) : Value → Option (List MenuEntry)
  | .list items => ofValues? spare items
  | _ => none

end Folio.MenuEntry
