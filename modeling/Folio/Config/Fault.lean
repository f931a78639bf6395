import Folio.Files.Tree

/-!
# Configuration faults

Why a configuration cannot be used.
-/

namespace Folio.Config

/-- A field that faults are reported for. -/
inductive Field where
  | template
  | name
  | logo
  | docsLogo
deriving DecidableEq, Repr

/-- The written form of a field. -/
def Field.written : Field → Text
  | .template => "render.template".toList
  | .name => "theme.name".toList
  | .logo => "theme.logo".toList
  | .docsLogo => "theme.docs_logo".toList

/-- Why a configuration cannot be used, by cause. -/
inductive Fault where
  /-- The file that was asked for is not there. -/
  | missing (path : Path)
  /-- A file cannot be read. -/
  | unreadable (fault : FileFault)
  /-- The file is not in order, or holds a value of a wrong kind. -/
  | malformed
  /-- A field refers to a variable that is not set. -/
  | unset (field : Field) (name : Text)
  /-- A field that must not be empty is empty. -/
  | empty (field : Field)
deriving DecidableEq, Repr

/-- The message of a fault. -/
def Fault.message : Fault → Text
  | .missing path => "Configuration file not found: ".toList ++ path
  | .unreadable fault => "I/O error: ".toList ++ fault.message
  | .malformed => "TOML parse error:".toList
  | .unset field name =>
    "Environment variable error in ".toList ++ field.written ++ ": $\x7b".toList ++ name ++
      "\x7d not set".toList
  | .empty field => "Configuration error: ".toList ++ field.written ++ " cannot be empty".toList

end Folio.Config
