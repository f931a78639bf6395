import Folio.Files.Path
import Folio.Text.Utf8

/-!
# File trees

A file tree holds files and directories under their full names, which are lists of parts from
the root. Paths are looked up part by part: every part but the last must lead to a directory.
-/

namespace Folio

/-- Why a file operation fails. -/
inductive FileFault where
  | missing
  | notDirectory
  | isDirectory
  | alreadyThere
  | nameTooLong
  | badName
  /-- The octets of a file are no text. -/
  | notText
  /-- A cause that the host reports in its own words. -/
  | other (message : Text)
deriving DecidableEq, Repr

/-- The message of a fault. -/
def FileFault.message : FileFault → Text
  | .missing => "No such file or directory (os error 2)".toList
  | .notDirectory => "Not a directory (os error 20)".toList
  | .isDirectory => "Is a directory (os error 21)".toList
  | .alreadyThere => "File exists (os error 17)".toList
  | .nameTooLong => "File name too long (os error 36)".toList
  | .badName => "file name contained an unexpected NUL byte".toList
  | .notText => "stream did not contain valid UTF-8".toList
  | .other message => message

/-- What a file holds. -/
inductive FileContent where
  | text (content : Text)
  /-- Octets that are no text. -/
  | binary (octets : List UInt8)
deriving DecidableEq, Repr

/-- The content that octets make. -/
def FileContent.ofOctets (octets : List UInt8) : FileContent :=
  match Text.ofUtf8? octets with
  | some content => .text content
  | none => .binary octets

/-- A file or a directory. -/
inductive FileEntry where
  | file (content : FileContent)
  | directory
deriving DecidableEq, Repr

/-- The full name of a file or a directory: its parts from the root. -/
abbrev FullName := List Text

/-- All files and directories but the root. -/
structure FileTree where
  entries : List (FullName × FileEntry)
deriving DecidableEq, Repr

namespace FileTree

/-- The tree that holds nothing. -/
def empty : FileTree := ⟨[]⟩

/-- What stands under a full name; the root is a directory. -/
def entry? (tree : FileTree) (name : FullName) : Option FileEntry :=
  if name = [] then some .directory else tree.entries.lookup name

/-- Puts a file or a directory under a full name. -/
def put (tree : FileTree) (name : FullName) (entry : FileEntry) : FileTree :=
  ⟨(name, entry) :: tree.entries.filter fun (other, _) => !(other == name)⟩

/-- How many octets a file name may have. -/
def longestName : Nat := 255

/-- Goes on from a directory by one part of a path. -/
def step (tree : FileTree) (place : FullName) (part : Text) : Except FileFault FullName :=
  match tree.entry? place with
  | none => .error .missing
  | some (.file _) => .error .notDirectory
  | some .directory =>
    if Path.isIdle part then .ok place
    else if part = ['.', '.'] then .ok place.dropLast
    else if longestName < (Text.toUtf8 part).length then .error .nameTooLong
    else .ok (place ++ [part])

/-- The full name that a path leads to from a directory. Something may or may not stand under
it. -/
def resolve (tree : FileTree) (here : FullName) (path : Path) : Except FileFault FullName :=
  if path.isEmpty then .error .missing
  else if path.contains '\x00' then .error .badName
  else
    let start := if Path.isAbsolute path then [] else here
    (Text.splitAtEach '/' path).foldlM (tree.step) start

/-- What a path leads to. -/
def find (tree : FileTree) (here : FullName) (path : Path) : Except FileFault FileEntry := do
  let name ← tree.resolve here path
  match tree.entry? name with
  | some entry => .ok entry
  | none => .error .missing

/-- Whether a path leads to anything. -/
def hasEntry (tree : FileTree) (here : FullName) (path : Path) : Bool :=
  match tree.find here path with
  | .ok _ => true
  | .error _ => false

/-- Whether a path leads to a file. -/
def isFile (tree : FileTree) (here : FullName) (path : Path) : Bool :=
  match tree.find here path with
  | .ok (.file _) => true
  | _ => false

/-- Whether a path leads to a directory. -/
def isDirectory (tree : FileTree) (here : FullName) (path : Path) : Bool :=
  match tree.find here path with
  | .ok .directory => true
  | _ => false

/-- The text of the file that a path leads to. -/
def readText (tree : FileTree) (here : FullName) (path : Path) : Except FileFault Text := do
  match ← tree.find here path with
  | .directory => .error .isDirectory
  | .file (.binary _) => .error .notText
  | .file (.text content) => .ok content

/-- Writes a text into the file that a path leads to. The file need not be there, but the
directory must. -/
def writeText (tree : FileTree) (here : FullName) (path : Path) (content : Text) :
    Except FileFault FileTree := do
  let name ← tree.resolve here path
  match tree.entry? name with
  | some .directory => .error .isDirectory
  | _ => .ok (tree.put name (.file (.text content)))

/-- Makes the directory that a path leads to. Slashes at the end of the path do not count. -/
def createDirectory (tree : FileTree) (here : FullName) (path : Path) :
    Except FileFault FileTree := do
  let trimmed := Text.dropRightWhile (· == '/') path
  let name ← tree.resolve here (if trimmed.isEmpty then path else trimmed)
  match tree.entry? name with
  | some _ => .error .alreadyThere
  | none => .ok (tree.put name .directory)

end FileTree

end Folio
