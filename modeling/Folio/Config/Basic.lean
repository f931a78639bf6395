import Folio.Config.Fault
import Folio.Config.Stored
import Folio.Table.Builtin
import Folio.Text.Quoted

/-!
# Configurations

A configuration holds resolved paths, a theme whose logos are as configured, and the default
bodies. It is made of what a configuration file says; without a file it holds the usual values.
-/

namespace Folio

namespace Config

/-- Puts an entry before the first one whose name is not smaller. -/
def insertByName (entry : Text × Text) : List (Text × Text) → List (Text × Text)
  | [] => [entry]
  | other :: rest =>
    if other.1 < entry.1 then other :: insertByName entry rest else entry :: other :: rest

/-- Entries in the order of their names, character by character. -/
def sortByName (entries : List (Text × Text)) : List (Text × Text) :=
  entries.foldr insertByName []

/-- The built-in bodies with those of a configuration over them. Names that are stored under one
key count in the order of their spellings, so the last spelling has its way. -/
def Bodies.defaults (bodies : Bodies) : Defaults :=
  (((Defaults.builtin.insertAll .boxes (sortByName bodies.boxes)).insertAll
    .macros (sortByName bodies.macros)).insertAll
    .settings (sortByName bodies.settings)).insertAll
    .menus (sortByName bodies.menus)

end Config

/-- A configuration. -/
structure Config where
  /-- The file that it was read from. -/
  source : Option Path
  template : Path
  outputDirectory : Option Path
  /-- The directory from which the logos are looked up. -/
  base : Path
  theme : Theme
  defaults : Defaults
deriving Repr

namespace Config

/-- The name of the template where none is configured. -/
def usualTemplate : Path := "template.html".toList

/-- The configuration for a directory without a configuration file. -/
def usual (base : Path) : Config where
  source := none
  template := Path.join base usualTemplate
  outputDirectory := none
  base := base
  theme := .plain
  defaults := .builtin

/-- Replaces the variables of a field, if the field is there. -/
def expandField (valueOf : Text → Option Text) (field : Field) :
    Option Text → Except Fault (Option Text)
  | none => .ok none
  | some text =>
    match expand valueOf text with
    | .ok value => .ok (some value)
    | .error name => .error (.unset field name)

/-- Replaces the variables of the name and of the logos. -/
def expandTheme (valueOf : Text → Option Text) (theme : Theme) : Except Fault Theme := do
  let name ← expandField valueOf .name theme.name
  let logo ← expandField valueOf .logo theme.logo
  let docsLogo ← expandField valueOf .docsLogo theme.docsLogo
  return { theme with name, logo, docsLogo }

/-- Refuses a field that is there and empty. -/
def requireContent (field : Field) (value : Option Text) : Except Fault Unit :=
  if value = some [] then .error (.empty field) else .ok ()

/-- The configuration that a file gives. Variables are replaced first, paths are seen from the
directory of the file, and only then the fields are looked at. -/
def ofStored (source : Path) (valueOf : Text → Option Text) (stored : Stored) :
    Except Fault Config := do
  let theme ← expandTheme valueOf stored.theme
  let base := (Path.parent? source).getD ['.']
  requireContent .template stored.template
  requireContent .name theme.name
  return {
    source := some source
    template := Path.join base (stored.template.getD usualTemplate)
    outputDirectory := stored.outputDirectory.map (Path.join base)
    base := base
    theme := theme
    defaults := stored.bodies.defaults }

/-- Paths that are used in the place of the configured ones. -/
structure Overrides where
  template : Option Path
  outputDirectory : Option Path
deriving DecidableEq, Repr

/-- Nothing in the place of configured paths. -/
def Overrides.none : Overrides := ⟨.none, .none⟩

/-- Uses other paths in the place of the configured ones. -/
def override (config : Config) (overrides : Overrides) : Config :=
  { config with
    template := overrides.template.getD config.template
    outputDirectory := overrides.outputDirectory.orElse fun _ => config.outputDirectory }

end Config

/-- The written form of a place in the menu of a configuration. -/
def MenuProblem.written (place : List Nat) : Text :=
  "theme.menu".toList ++
    Text.joinWith ".subitems".toList
      (place.map fun position => '[' :: Text.ofNat position ++ [']'])

/-- The message of a problem. -/
def MenuProblem.message (problem : MenuProblem) : Text :=
  let entry := written problem.place ++ " (".toList ++ problem.name ++ "): ".toList
  match problem.fault with
  | .invalid path =>
    entry ++ "invalid link ".toList ++ Text.quoted path ++
      ", expected an absolute path or http(s) URL".toList
  | .missing => entry ++ "missing path".toList

end Folio
