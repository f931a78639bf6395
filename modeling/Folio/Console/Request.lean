import Folio.Console.Arguments
import Folio.Files.Path

/-!
# Requests

What the arguments of the program ask for: a page of help, the version, or one of the two
commands `render` and `check` with its options. An option stands at most once, and a path is
never empty. Arguments are taken in order; help that is asked for before anything is wrong is
given.
-/

namespace Folio.Console

/-- The options of the program and of its commands. -/
inductive OptionKey where
  | config
  | template
  | outputDirectory
  | title
  | verbose
  | help
  | version
deriving DecidableEq, Repr

/-- What help can be asked about. -/
inductive Topic where
  | program
  | render
  | check
  | help
deriving DecidableEq, Repr

/-- What `render` is to do. -/
structure RenderOptions where
  sources : List Path
  config : Option Path
  template : Option Path
  outputDirectory : Option Path
  title : Option Text
  verbose : Bool
deriving DecidableEq, Repr

/-- What `check` is to do. -/
structure CheckOptions where
  config : Option Path
  verbose : Bool
deriving DecidableEq, Repr

/-- What the arguments ask for. -/
inductive Request where
  | help (topic : Topic)
  | version
  | render (options : RenderOptions)
  | check (options : CheckOptions)
  /-- The arguments are not in order. -/
  | misuse
deriving DecidableEq, Repr

/-- The option that asks for help. -/
def helpForm : OptionForm OptionKey :=
  ⟨.help, some 'h', "help".toList, none, "Print help".toList⟩

/-- The option that asks for the version. -/
def versionForm : OptionForm OptionKey :=
  ⟨.version, some 'V', "version".toList, none, "Print version".toList⟩

/-- The option that names the configuration file. -/
def configForm : OptionForm OptionKey :=
  ⟨.config, some 'c', "config".toList, some "CONFIG".toList,
    "Path to configuration file (default: auto-discover kdocs.toml)".toList⟩

/-- The option that names the template. -/
def templateForm : OptionForm OptionKey :=
  ⟨.template, some 't', "template".toList, some "TEMPLATE".toList,
    "HTML page template (overrides config)".toList⟩

/-- The option that names the output directory. -/
def outputDirectoryForm : OptionForm OptionKey :=
  ⟨.outputDirectory, some 'o', "output-dir".toList, some "OUTPUT_DIR".toList,
    ("Output directory (overrides config). Without one, a single page is written " ++
      "to stdout").toList⟩

/-- The option that gives the title. -/
def titleForm : OptionForm OptionKey :=
  ⟨.title, none, "title".toList, some "TITLE".toList,
    "Page title; disables title detection from the first heading".toList⟩

/-- The option that asks for more output. -/
def verboseForm : OptionForm OptionKey :=
  ⟨.verbose, some 'v', "verbose".toList, none, "Enable verbose output".toList⟩

/-- The options before any command. -/
def programForms : List (OptionForm OptionKey) := [helpForm, versionForm]

/-- The options of `render`. -/
def renderForms : List (OptionForm OptionKey) :=
  [configForm, templateForm, outputDirectoryForm, titleForm, verboseForm, helpForm]

/-- The options of `check`. -/
def checkForms : List (OptionForm OptionKey) := [configForm, verboseForm, helpForm]

/-- The variable that names the template when no option does. -/
def templateVariable : Text := "KDOCS_TEMPLATE".toList

/-- A value that is given for the first time. -/
def once {α : Type} (earlier : Option α) (value : α) : Option (Option α) :=
  match earlier with
  | none => some (some value)
  | some _ => none

/-- A path that is given for the first time, and is not empty. -/
def pathOnce (earlier : Option Path) (path : Path) : Option (Option Path) :=
  if path.isEmpty then none else once earlier path

/-- Adds an item to what `render` is to do. -/
def RenderOptions.add (options : RenderOptions) : Item OptionKey → Option RenderOptions
  | .word path =>
    if path.isEmpty then none else some { options with sources := options.sources ++ [path] }
  | .flag .verbose => if options.verbose then none else some { options with verbose := true }
  | .setting .config path =>
    (pathOnce options.config path).map fun config => { options with config }
  | .setting .template path =>
    (pathOnce options.template path).map fun template => { options with template }
  | .setting .outputDirectory path =>
    (pathOnce options.outputDirectory path).map fun outputDirectory =>
      { options with outputDirectory }
  | .setting .title title => (once options.title title).map fun title => { options with title }
  | _ => none

/-- Adds an item to what `check` is to do. -/
def CheckOptions.add (options : CheckOptions) : Item OptionKey → Option CheckOptions
  | .flag .verbose => if options.verbose then none else some { options with verbose := true }
  | .setting .config path =>
    (pathOnce options.config path).map fun config => { options with config }
  | _ => none

/-- Takes the items of a command in order, until one of them asks for help or is out of order. -/
def collect {ω : Type} (add : ω → Item OptionKey → Option ω) (topic : Topic)
    (finish : ω → Request) (options : ω) : List (Item OptionKey) → Request
  | [] => finish options
  | .flag .help :: _ => .help topic
  | item :: rest =>
    match add options item with
    | some options => collect add topic finish options rest
    | none => .misuse

/-- The request to render, if there are sources. The value of the template variable counts when
no option names a template. -/
def RenderOptions.toRequest (template : Option Text) (options : RenderOptions) : Request :=
  if options.sources.isEmpty then .misuse
  else
    match options.template, template with
    | none, some [] => .misuse
    | none, some path => .render { options with template := some path }
    | _, _ => .render options

/-- What the words after `help` ask for. -/
def helpRequest : List Text → Request
  | [] => .help .program
  | [word] =>
    if word = "render".toList then .help .render
    else if word = "check".toList then .help .check
    else if word = "help".toList then .help .help
    else .misuse
  | _ => .misuse

/-- What an option before any command asks for. -/
def programRequest (items : List (Item OptionKey)) : Request :=
  match items.head? with
  | some (.flag .help) => .help .program
  | some (.flag .version) => .version
  | _ => .misuse

/-- What arguments ask for, for a given value of the template variable. -/
def Request.ofArguments (template : Option Text) : List Text → Request
  | [] => .misuse
  | word :: rest =>
    if word = "render".toList then
      collect RenderOptions.add .render (RenderOptions.toRequest template)
        ⟨[], none, none, none, none, false⟩ (readArguments renderForms rest)
    else if word = "check".toList then
      collect CheckOptions.add .check .check ⟨none, false⟩ (readArguments checkForms rest)
    else if word = "help".toList then helpRequest rest
    else programRequest (readArguments programForms [word])

end Folio.Console
