import Folio.Config.Fault

/-!
# Command faults

Why a command cannot do what it is asked for.
-/

namespace Folio.Console

/-- Why a command fails, by cause. -/
inductive Fault where
  | config (fault : Config.Fault)
  /-- The template or a source cannot be read. -/
  | unreadable (path : Path) (fault : FileFault)
  /-- A page or its directory cannot be written. -/
  | unwritable (fault : FileFault)
  /-- Several pages cannot go to the first output. -/
  | noDirectory
  /-- The configuration has problems. -/
  | problems (count : Nat)
deriving DecidableEq, Repr

/-- The message of a fault. -/
def Fault.message : Fault → Text
  | .config fault => fault.message
  | .unreadable path fault => "Failed to read ".toList ++ path ++ ": ".toList ++ fault.message
  | .unwritable fault => fault.message
  | .noDirectory => "--output-dir is required when rendering more than one file".toList
  | .problems count => Text.ofNat count ++ " configuration problem(s) found".toList

end Folio.Console
