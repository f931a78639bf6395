import Folio.Config.Load
import Folio.Console.Fault
import Folio.Console.Request
import Folio.Page

/-!
# Rendering files

`render` makes a page of every source with one template and one theme. Pages go into the output
directory; without one, a single page goes to the first output.
-/

namespace Folio.Console

variable {m : Type → Type} [Monad m]

/-- Reads a file for a command. -/
def readFile (host : Host m) (path : Path) : ExceptT Fault m Text :=
  ExceptT.mk do return (← host.readText path).mapError (.unreadable path)

/-- A step of loading a configuration as a step of a command. -/
def configured {α : Type} (step : ExceptT Config.Fault m α) : ExceptT Fault m α :=
  ExceptT.mk do return (← step.run).mapError .config

/-- The file in the output directory for a source: its name with another extension. -/
def outputPath (directory source : Path) : Path :=
  Path.join directory ((Path.fileStem? source).getD source ++ ".html".toList)

/-- Puts out a page. -/
def writePage (host : Host m) (directory : Option Path) (source : Path) (page : Page) :
    ExceptT Fault m Unit :=
  match directory with
  | some directory => do
    let target := outputPath directory source
    ExceptT.mk do return (← host.writeText target page.html).mapError .unwritable
    host.report ("Wrote ".toList ++ target)
  | none => host.print page.html

/-- Makes the pages of sources, and gives the number of their notices. -/
def renderSources (host : Host m) (render : Text → Page) (directory : Option Path) :
    List Path → ExceptT Fault m Nat
  | [] => return 0
  | source :: rest => do
    let page := render (← readFile host source)
    page.notices.forM fun notice => host.report (source ++ ": ".toList ++ notice.message)
    writePage host directory source page
    return page.notices.length + (← renderSources host render directory rest)

/-- What is reported after all pages have been made. -/
def renderSummary (pages notices : Nat) : Text :=
  let rendered := "Rendered ".toList ++ Text.ofNat pages ++ " page(s)".toList
  if notices = 0 then rendered
  else rendered ++ " with ".toList ++ Text.ofNat notices ++ " warning(s)".toList

/-- The values that a given title makes for a page. -/
def titleValues (title : Text) : Dictionary :=
  .ofList [("name".toList, title)]

/-- Makes the output directory, if there is one. -/
def makeDirectory (host : Host m) : Option Path → ExceptT Fault m Unit
  | some directory =>
    ExceptT.mk do return (← host.createDirectories directory).mapError .unwritable
  | none => return ()

/-- Renders sources. -/
def runRender (host : Host m) (options : RenderOptions) : ExceptT Fault m Unit := do
  let config ←
    configured (Config.load host options.config ⟨options.template, options.outputDirectory⟩)
  if config.outputDirectory.isNone && 1 < options.sources.length then
    throw .noDirectory
  let template ← readFile host config.template
  let theme ← configured (config.loadTheme host)
  makeDirectory host config.outputDirectory
  let renderer := Renderer.ofDefaults config.defaults
  let render (source : Text) : Page :=
    renderer.render template source theme (options.title.map titleValues)
  let notices ← renderSources host render config.outputDirectory options.sources
  host.report (renderSummary options.sources.length notices)

end Folio.Console
