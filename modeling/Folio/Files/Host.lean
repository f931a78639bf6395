import Folio.Files.Tree

/-!
# Hosts

A host is what a program runs on: it has files, variables and two outputs. The commands of this
library are written for any host. `World` is a host that is a value: a program that runs on it
is a function from one world to the next.
-/

namespace Folio

/-- What a program can ask of the computer it runs on. -/
structure Host (m : Type → Type) where
  /-- The directory from which relative paths start. -/
  workingDirectory : m Path
  /-- The value of a variable. -/
  valueOfVariable : Text → m (Option Text)
  hasEntry : Path → m Bool
  isFile : Path → m Bool
  isDirectory : Path → m Bool
  readText : Path → m (Except FileFault Text)
  writeText : Path → Text → m (Except FileFault Unit)
  createDirectory : Path → m (Except FileFault Unit)
  /-- Writes to the first output. -/
  print : Text → m Unit
  /-- Writes a line to the second output. -/
  report : Text → m Unit

/-- The files, the variables and the outputs of a computer. -/
structure World where
  tree : FileTree
  /-- The directory from which relative paths start. -/
  here : FullName
  environment : List (Text × Text)
  printed : Text
  reported : Text

namespace World

/-- The value of a variable. A setting is kept as `name=value`, and a name is looked up as the
part before some equals sign of a setting. -/
def valueOfVariable (world : World) (name : Text) : Option Text :=
  if name.isEmpty then none
  else
    world.environment.findSome? fun (key, value) =>
      Text.dropLead? (name ++ ['=']) (key ++ '=' :: value)

/-- The written form of a full name. -/
def pathOf (name : FullName) : Path :=
  '/' :: Text.joinWith ['/'] name

/-- Looks at a world without changing it. -/
def look {α : Type} (view : World → α) : StateM World α := do
  return view (← get)

/-- Changes the tree of a world, unless that fails. -/
def change (edit : World → Except FileFault FileTree) : StateM World (Except FileFault Unit) := do
  let world ← get
  match edit world with
  | .ok tree =>
    set { world with tree }
    return .ok ()
  | .error fault => return .error fault

/-- The host that a world is. -/
def host : Host (StateM World) where
  workingDirectory := look fun world => pathOf world.here
  valueOfVariable name := look fun world => world.valueOfVariable name
  hasEntry path := look fun world => world.tree.hasEntry world.here path
  isFile path := look fun world => world.tree.isFile world.here path
  isDirectory path := look fun world => world.tree.isDirectory world.here path
  readText path := look fun world => world.tree.readText world.here path
  writeText path content := change fun world => world.tree.writeText world.here path content
  createDirectory path := change fun world => world.tree.createDirectory world.here path
  print text := modify fun world => { world with printed := world.printed ++ text }
  report line := modify fun world => { world with reported := world.reported ++ line ++ ['\n'] }

end World

namespace Host

variable {m : Type → Type} [Monad m]

/-- Makes the first of some directories, each of which is to stand in the next one, and those
of the others that are missing. An empty path is no directory to make. -/
def createEach (host : Host m) : List Path → m (Except FileFault Unit)
  | [] => return .ok ()
  | path :: above =>
    if path.isEmpty then return .ok ()
    else do
      match ← host.createDirectory path with
      | .ok () => return .ok ()
      | .error .missing =>
        match ← createEach host above with
        | .error fault => return .error fault
        | .ok () =>
          match ← host.createDirectory path with
          | .ok () => return .ok ()
          | .error fault => return if ← host.isDirectory path then .ok () else .error fault
      | .error fault => return if ← host.isDirectory path then .ok () else .error fault

/-- Makes a directory and the directories above it that are missing. -/
def createDirectories (host : Host m) (path : Path) : m (Except FileFault Unit) :=
  host.createEach (Path.ancestors path)

end Host

end Folio
