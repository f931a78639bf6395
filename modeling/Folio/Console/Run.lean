import Folio.Console.Check
import Folio.Console.Help

/-!
# Running the program

The program does what its arguments ask for, on any host. It ends with the code 0 if all went
well, 1 if a command failed, and 2 if the arguments are not in order.
-/

namespace Folio.Console

variable {m : Type → Type} [Monad m]

/-- Runs a command and gives the exit code. -/
def runCommand (host : Host m) (command : ExceptT Fault m Unit) : m Nat := do
  match ← command.run with
  | .ok () => return 0
  | .error fault =>
    host.report ("Error: ".toList ++ fault.message)
    return 1

/-- Does what is asked for and gives the exit code. -/
def answer (host : Host m) (template : Option Text) : Request → m Nat
  | .help topic => do
    host.print (helpPage template topic).render
    return 0
  | .version => do
    host.print versionLine
    return 0
  | .render options => runCommand host (runRender host options)
  | .check options => runCommand host (runCheck host options)
  | .misuse => do
    host.report misuseNotice
    return 2

/-- Runs the program and gives its exit code. -/
def run (host : Host m) (arguments : List Text) : m Nat := do
  let template ← host.valueOfVariable templateVariable
  answer host template (.ofArguments template arguments)

end Folio.Console
