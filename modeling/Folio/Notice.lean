import Folio.Entity

/-!
# Notices

A content error never stops a page from being made. It becomes a notice: its message is listed
with the page, and a visible fragment stands in the page where the error was found.
-/

namespace Folio

/-- A content error, by its cause. -/
inductive Notice where
  /-- A declaration block has no name. -/
  | unnamedDeclaration
  /-- The name of a declaration block holds whitespace. -/
  | blankInName (name : Text)
  /-- An aside is declared under the name of the main region. -/
  | reservedAside
  /-- An `@` heading names neither a setting nor a macro. -/
  | unknownCommand (word : Text)
  /-- A `~` heading names no box. -/
  | unknownBox (word : Text)
  /-- The link of a menu entry is neither an absolute path nor a web address. -/
  | invalidLink (path : Text)
  /-- A menu entry that needs a link has none. -/
  | missingLink (name : Text)
  /-- The menu templates lack the one that an entry needs. -/
  | unknownMenuTemplate (name : Text)
deriving DecidableEq, Repr

namespace Notice

/-- The message of a notice. -/
def message : Notice → Text
  | .unnamedDeclaration => "id or data-name missing on macro".toList
  | .blankInName name => "Declaration name contains whitespace: ".toList ++ name
  | .reservedAside => "Aside name is reserved: main".toList
  | .unknownCommand word => "Unknown command: @".toList ++ word
  | .unknownBox word => "Unknown box: ~".toList ++ word
  | .invalidLink path => "Invalid link: ".toList ++ path
  | .missingLink name => "Missing link for menu entry: ".toList ++ name
  | .unknownMenuTemplate name => "Unknown menu template: ".toList ++ name

/-- The visible fragment that stands in the page for a notice. -/
def fragment (notice : Notice) : Text :=
  "<div class='ui negative message'>".toList ++ Entity.quote notice.message ++ "</div>".toList

end Notice

end Folio
