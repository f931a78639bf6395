import Folio.Console.Render

/-!
# Checking a configuration

`check` loads the configuration and reports what would show up as an error in every page: links
of the menu that are not acceptable, and a template that is not there.
-/

namespace Folio.Console

variable {m : Type → Type} [Monad m]

/-- What is reported about where a configuration comes from. -/
def sourceNotice (config : Config) : Text :=
  match config.source with
  | some path => "Config: ".toList ++ path
  | none => "Config: none found, using defaults".toList

/-- The problems of a configuration, of whose template it is known whether it is a file. -/
def problemsOf (config : Config) (hasTemplate : Bool) : List Text :=
  (menuProblems config.theme.menu).map MenuProblem.message ++
    if hasTemplate then []
    else ["render.template: ".toList ++ config.template ++ " not found".toList]

/-- Checks a configuration. Logos that cannot be read count before all problems. -/
def runCheck (host : Host m) (options : CheckOptions) : ExceptT Fault m Unit := do
  let config ← configured (Config.load host options.config .none)
  host.report (sourceNotice config)
  let problems := problemsOf config (← host.isFile config.template)
  discard (configured (config.loadTheme host))
  if problems.isEmpty then
    host.report "Configuration OK".toList
  else
    problems.forM fun problem => host.report problem
    throw (.problems problems.length)

end Folio.Console
