import Folio.Config.Basic
import Folio.Files.Host

/-!
# Loading configurations

A configuration comes from the file that is asked for. If none is asked for, it comes from the
nearest file with the usual name in the working directory or above it; if there is none either,
it holds the usual values.
-/

namespace Folio

namespace Host

variable {m : Type → Type} [Monad m]

/-- The first of some paths under which there is anything. -/
def firstThere? (host : Host m) : List Path → m (Option Path)
  | [] => return none
  | path :: rest => do
    if ← host.hasEntry path then return some path else firstThere? host rest

/-- The values of variables; a variable that is not set has none. -/
def valuesOf (host : Host m) : List Text → m (List (Text × Text))
  | [] => return []
  | name :: rest => do
    let value ← host.valueOfVariable name
    let values ← valuesOf host rest
    return (value.map (name, ·)).toList ++ values

/-- Reads a text for the sake of a configuration. -/
def readConfigured (host : Host m) (path : Path) : ExceptT Config.Fault m Text :=
  ExceptT.mk do return (← host.readText path).mapError .unreadable

end Host

namespace Config

variable {m : Type → Type} [Monad m]

/-- The usual name of a configuration file. -/
def fileName : Path := "kdocs.toml".toList

/-- Reads a configuration file. -/
def read (host : Host m) (path : Path) : ExceptT Fault m Config := do
  let content ← host.readConfigured path
  match Stored.ofText? content with
  | none => throw .malformed
  | some stored =>
    let values ← host.valuesOf stored.variableNames
    ExceptT.mk (return ofStored path (fun name => values.lookup name) stored)

/-- The configuration that is used for a directory when no file is asked for. -/
def discover (host : Host m) (directory : Path) : ExceptT Fault m Config := do
  match ← host.firstThere? ((Path.ancestors directory).map (Path.join · fileName)) with
  | some path => read host path
  | none => return usual directory

/-- Loads a configuration, from a given file or from the one that is found. -/
def load (host : Host m) (given : Option Path) (overrides : Overrides) :
    ExceptT Fault m Config := do
  let config ←
    match given with
    | some path =>
      if ← host.hasEntry path then read host path else throw (.missing path)
    | none => discover host (← host.workingDirectory)
  return config.override overrides

/-- Whether the value of a logo is markup or an address, and never names a file. -/
def isLogoItself (value : Text) : Bool :=
  ["<".toList, "data:".toList, "http://".toList, "https://".toList].any fun lead =>
    Text.startsWith lead (Text.trimStart value)

/-- Replaces the value of a logo that names a file by what the file holds. -/
def loadLogo (host : Host m) (base : Path) : Option Text → ExceptT Fault m (Option Text)
  | none => return none
  | some value => do
    let path := Path.join base value
    if isLogoItself value then return some value
    else if ← host.isFile path then return some (← host.readConfigured path)
    else return some value

/-- The theme of a configuration with its logos loaded. -/
def loadTheme (host : Host m) (config : Config) : ExceptT Fault m Theme := do
  let logo ← loadLogo host config.base config.theme.logo
  let docsLogo ← loadLogo host config.base config.theme.docsLogo
  return { config.theme with logo, docsLogo }

end Config

end Folio
