import Folio.Text.Basic

/-!
# Paths

Paths are texts whose parts stand between slashes. The operations here look at the text alone:
nothing is asked of a file system, and no part is resolved. Empty parts and parts that are a
single dot do not count, but a dot at the start of a relative path does.
-/

namespace Folio

/-- A path is kept as it is written. -/
abbrev Path := Text

namespace Path

/-- Whether a path starts at the root. -/
def isAbsolute (path : Path) : Bool :=
  path.head? == some '/'

/-- A path seen from another one. An absolute path stays as it is. -/
def join (base path : Path) : Path :=
  if isAbsolute path then path
  else if base.isEmpty || base.getLast? == some '/' then base ++ path
  else base ++ '/' :: path

/-- Whether a part does not count. -/
def isIdle (part : Text) : Bool :=
  part.isEmpty || part == ['.']

/-- A path as what it starts with and the parts that follow: a slash and all parts for an
absolute path, a first part that is a dot and the other parts, or nothing and all parts. -/
def split (path : Path) : Text × List Text :=
  match path with
  | '/' :: rest => (['/'], Text.splitAtEach '/' rest)
  | ['.'] => (['.'], [])
  | '.' :: '/' :: rest => (['.'], Text.splitAtEach '/' rest)
  | _ => ([], Text.splitAtEach '/' path)

/-- Parts without the ones at the end that do not count. -/
def trimParts (parts : List Text) : List Text :=
  (parts.reverse.dropWhile isIdle).reverse

/-- What a path starts with, and its parts up to the last one that counts. -/
def counted (path : Path) : Text × List Text :=
  let (lead, parts) := split path
  (lead, trimParts parts)

/-- The path that starts with `lead` and goes on with `parts`. -/
def ofParts (lead : Text) (parts : List Text) : Path :=
  match lead, parts with
  | lead, [] => lead
  | ['/'], parts => '/' :: Text.joinWith ['/'] parts
  | [], parts => Text.joinWith ['/'] parts
  | lead, parts => lead ++ '/' :: Text.joinWith ['/'] parts

/-- The path without its last part. The root and the empty path have no such path. -/
def parent? (path : Path) : Option Path :=
  match counted path with
  | (lead, []) => if lead = ['.'] then some [] else none
  | (lead, parts) => some (ofParts lead (trimParts parts.dropLast))

/-- A path, the path without its last part, and so on, at most `fuel` of them. -/
def ancestorsWithin : (fuel : Nat) → Path → List Path
  | 0, _ => []
  | fuel + 1, path =>
    path ::
      match parent? path with
      | some parent => ancestorsWithin fuel parent
      | none => []

/-- A path, the path without its last part, and so on up to the root or the empty path. -/
def ancestors (path : Path) : List Path :=
  ancestorsWithin (path.length + 1) path

/-- The last part of a path, unless it leads upwards. -/
def fileName? (path : Path) : Option Text :=
  ((counted path).2.getLast?).filter fun part => !(part == ['.', '.'])

/-- A file name without its extension. A dot at the start does not begin an extension. -/
def stemOfName (name : Text) : Text :=
  match name.reverse.dropWhile (· ≠ '.') with
  | _ :: before => if before.isEmpty then name else before.reverse
  | [] => name

/-- The file name of a path without its extension. -/
def fileStem? (path : Path) : Option Text :=
  (fileName? path).map stemOfName

end Path

end Folio
