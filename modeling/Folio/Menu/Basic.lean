import Folio.Text.Basic

/-!
# Menus

A menu is a tree: its leaves are links and dividers, its inner nodes are groups. A leaf is in
order if its link is acceptable, or if it is a divider without a link. The check of a menu lists the
leaves that are not.
-/

namespace Folio

/-- An entry of a menu. The path of a group is kept, although a group is not a link. -/
inductive MenuEntry where
  | leaf (name : Text) (path : Option Text)
  | group (name : Text) (path : Option Text) (children : List MenuEntry)
deriving Repr

/-- Whether a path may be linked to: an absolute path or a web address. -/
def isValidLink (path : Text) : Bool :=
  Text.startsWith "/".toList path || Text.startsWith "http:".toList path ||
    Text.startsWith "https:".toList path

/-- What is wrong with the link of a leaf. -/
inductive LinkFault where
  | invalid (path : Text)
  | missing
deriving DecidableEq, Repr

namespace MenuEntry

/-- Whether a leaf of this name is a divider: its name is a run of hyphens. -/
def isDividerName (name : Text) : Bool :=
  !name.isEmpty && name.all (· == '-')

/-- Whether an entry is a group. -/
def isGroup : MenuEntry → Bool
  | .leaf _ _ => false
  | .group _ _ _ => true

/-- Whether an entry is a divider. -/
def isDivider : MenuEntry → Bool
  | .leaf name _ => isDividerName name
  | .group _ _ _ => false

/-- What the check of a menu finds wrong with the link of a leaf. A leaf with an acceptable link and
a divider without one are let through before anything is found. -/
def linkFault? (name : Text) (path : Option Text) : Option LinkFault :=
  if path.any isValidLink then none
  else if path.isNone && isDividerName name then none
  else
    match path with
    | some path => some (.invalid path)
    | none => some .missing

end MenuEntry

/-- A leaf whose link is at fault: the positions that lead to it from the top of the menu, its
name and the fault. -/
structure MenuProblem where
  place : List Nat
  name : Text
  fault : LinkFault
deriving DecidableEq, Repr

namespace MenuEntry

mutual

/-- The leaves at fault in an entry that stands at a place, in depth-first order. -/
def problems (place : List Nat) : MenuEntry → List MenuProblem
  | .leaf name path => (linkFault? name path).toList.map (⟨place, name, ·⟩)
  | .group _ _ children => problemsFrom place 0 children

/-- The leaves at fault in the children of an entry, the first of which has the position
`position`. -/
def problemsFrom (place : List Nat) (position : Nat) : List MenuEntry → List MenuProblem
  | [] => []
  | entry :: rest =>
    entry.problems (place ++ [position]) ++ problemsFrom place (position + 1) rest

end

end MenuEntry

/-- The leaves at fault in a menu, in depth-first order. -/
def menuProblems (menu : List MenuEntry) : List MenuProblem :=
  MenuEntry.problemsFrom [] 0 menu

end Folio
