import Folio.Dictionary
import Folio.Files.Tree
import Folio.Proofs.Files.Path
import Mathlib.Data.List.Basic

/-!
# What file operations do to a tree

A path is looked up part by part, and each part but the last must lead to a directory. So where a
path leads depends on the directories of a tree alone: writing files changes what a path finds, but
not where it leads. A write puts one file under one full name, and nothing else changes.
-/

namespace Folio.FileTree

variable {tree other : FileTree} {here name : FullName} {path : Path} {content : Text}

/-! ## Entries -/

/-- Putting an entry under a name changes what stands under that name alone. -/
theorem entry?_put (tree : FileTree) {name : FullName} (notRoot : name ≠ []) (entry : FileEntry)
    (other : FullName) :
    FileTree.entry? (tree.put name entry) other =
      if other = name then some entry else tree.entry? other := by
  by_cases isRoot : other = []
  · subst isRoot
    rw [if_neg (Ne.symm notRoot)]
    rfl
  · simp only [ entry?, if_neg isRoot, put, Dictionary.lookup_cons_ite]
    by_cases same : other = name
    · rw [if_pos same, if_pos same]
    · rw [if_neg same, if_neg same]
      exact Dictionary.lookup_filter_ne same tree.entries

/-- Whether a directory stands under a full name. -/
def IsDirectory (tree : FileTree) (name : FullName) : Prop :=
  tree.entry? name = some .directory

/-- Every directory of a tree is one of another tree. -/
def HasDirectoriesOf (other tree : FileTree) : Prop :=
  ∀ name, tree.IsDirectory name → other.IsDirectory name

theorem HasDirectoriesOf.refl (tree : FileTree) : tree.HasDirectoriesOf tree :=
  fun _ isDirectory => isDirectory

/-! ## Where a path leads -/

theorem isDirectory_of_step {place next : FullName} {part : Text}
    (found : tree.step place part = .ok next) : tree.IsDirectory place := by
  unfold step at found
  split at found
  · simp at found
  · simp at found
  · assumption

/-- A step needs no more than the directory that it starts from. -/
theorem step_of_isDirectory {place next : FullName} {part : Text}
    (found : tree.step place part = .ok next) (isDirectory : other.IsDirectory place) :
    other.step place part = .ok next := by
  have start := isDirectory_of_step found
  unfold IsDirectory at start isDirectory
  unfold step at found ⊢
  rw [start] at found
  rw [isDirectory]
  exact found

theorem foldlM_step_of_hasDirectoriesOf (keeps : other.HasDirectoriesOf tree) {parts : List Text}
    {place next : FullName} (found : parts.foldlM tree.step place = .ok next) :
    parts.foldlM other.step place = .ok next := by
  induction parts generalizing place with
  | nil => exact found
  | cons part parts inductionHypothesis =>
    rw [List.foldlM_cons] at found ⊢
    cases first : tree.step place part with
    | error fault => simp [first, bind, Except.bind] at found
    | ok middle =>
      rw [first] at found
      rw [step_of_isDirectory first (keeps place (isDirectory_of_step first))]
      exact inductionHypothesis found

/-- More directories do not change where a path leads. -/
theorem resolve_of_hasDirectoriesOf (keeps : other.HasDirectoriesOf tree)
    (found : tree.resolve here path = .ok name) : other.resolve here path = .ok name := by
  unfold resolve at found ⊢
  split at found
  · simp at found
  next notEmpty =>
    split at found
    · simp at found
    next isName =>
      rw [if_neg notEmpty, if_neg isName]
      exact foldlM_step_of_hasDirectoriesOf keeps found

/-- Whether two trees have the same directories. -/
def SameDirectories (tree other : FileTree) : Prop :=
  ∀ name, other.IsDirectory name ↔ tree.IsDirectory name

theorem SameDirectories.refl (tree : FileTree) : tree.SameDirectories tree :=
  fun _ => Iff.rfl

theorem SameDirectories.trans {first second third : FileTree} (same : first.SameDirectories second)
    (sameLater : second.SameDirectories third) : first.SameDirectories third :=
  fun name => (sameLater name).trans (same name)

/-- Paths lead to the same places in trees with the same directories. -/
theorem SameDirectories.resolve_iff (same : tree.SameDirectories other) :
    other.resolve here path = .ok name ↔ tree.resolve here path = .ok name := by
  constructor
  · exact resolve_of_hasDirectoriesOf fun place => (same place).1
  · exact resolve_of_hasDirectoriesOf fun place => (same place).2

/-- A path leads to something if its parts can be followed. -/
theorem resolve_eq_ok_iff :
    tree.resolve here path = .ok name ↔
      path ≠ [] ∧ '\x00' ∉ path ∧
        (Text.splitAtEach '/' path).foldlM tree.step (if Path.isAbsolute path then [] else here) =
          .ok name := by
  unfold resolve
  simp only [List.isEmpty_iff, List.contains_iff_mem]
  constructor
  · intro found
    split at found
    · cases found
    next notEmpty =>
      split at found
      · cases found
      next isText => exact ⟨notEmpty, isText, found⟩
  · rintro ⟨notEmpty, isText, found⟩
    rw [if_neg notEmpty, if_neg isText, found]

/-- A part that does not count is no step at all, but only a directory has one. -/
theorem step_of_isIdle {place : FullName} {part : Text} (isDirectory : tree.IsDirectory place)
    (isIdle : Path.isIdle part = true) : tree.step place part = .ok place := by
  unfold IsDirectory at isDirectory
  unfold step
  simp [isDirectory, isIdle]

/-- The last step of a path. -/
theorem last_step_of_resolve (found : tree.resolve here path = .ok name) :
    ∃ place part, (Text.splitAtEach '/' path).getLast? = some part ∧
      tree.step place part = .ok name := by
  obtain ⟨-, -, followed⟩ := resolve_eq_ok_iff.1 found
  obtain ⟨front, part, parts⟩ :=
    (Text.splitAtEach '/' path).eq_nil_or_concat'.resolve_left (Text.splitAtEach_ne_nil '/' path)
  rw [parts, List.foldlM_append] at followed
  simp only [List.foldlM_cons, List.foldlM_nil, bind_pure] at followed
  cases walked : front.foldlM tree.step (if Path.isAbsolute path then [] else here) with
  | error fault => simp [walked, bind, Except.bind] at followed
  | ok place =>
    refine ⟨place, part, by rw [parts, List.getLast?_concat], ?_⟩
    rw [walked] at followed
    exact followed

/-- A path whose last part is a name leads to something of that name. -/
theorem getLast?_of_resolve (found : tree.resolve here path = .ok name) {part : Text}
    (isLast : (Text.splitAtEach '/' path).getLast? = some part) (isName : Path.IsFileName part) :
    name.getLast? = some part := by
  obtain ⟨place, last, isLast', stepped⟩ := last_step_of_resolve found
  obtain rfl : last = part := Option.some.inj (isLast'.symm.trans isLast)
  have isDirectory := isDirectory_of_step stepped
  unfold IsDirectory at isDirectory
  unfold step at stepped
  simp only [isDirectory, isName.1, Bool.false_eq_true, if_false, isName.2] at stepped
  split at stepped
  · cases stepped
  · cases stepped
    exact List.getLast?_concat

/-! ## Trees in which everything stands in a directory -/

/-- Everything that a tree holds stands in a directory. -/
def WellFormed (tree : FileTree) : Prop :=
  ∀ held ∈ tree.entries, tree.IsDirectory held.1.dropLast

instance (tree : FileTree) : Decidable tree.WellFormed :=
  inferInstanceAs (Decidable (∀ held ∈ tree.entries, tree.entry? held.1.dropLast = _))

theorem WellFormed.isDirectory_dropLast (wellFormed : tree.WellFormed) {entry : FileEntry}
    (stands : tree.entry? name = some entry) : tree.IsDirectory name.dropLast := by
  unfold entry? at stands
  split at stands
  next isRoot =>
    subst isRoot
    rfl
  · obtain ⟨front, back, entries, -⟩ := List.lookup_eq_some_iff.1 stands
    refine wellFormed (name, entry) ?_
    rw [entries]
    exact List.mem_append_right front List.mem_cons_self

/-- A path to a file ends with the name of the file. -/
theorem WellFormed.getLast?_of_file (wellFormed : tree.WellFormed) {held : FileContent}
    (found : tree.resolve here path = .ok name) (isFile : tree.entry? name = some (.file held)) :
    name.getLast? = Path.fileName? path := by
  obtain ⟨place, part, isLast, stepped⟩ := last_step_of_resolve found
  have isDirectory := isDirectory_of_step stepped
  have isName : Path.IsFileName part := by
    constructor
    · rw [← Bool.not_eq_true]
      intro isIdle
      rw [step_of_isIdle isDirectory isIdle] at stepped
      cases stepped
      simp [IsDirectory, isFile] at isDirectory
    · rintro rfl
      unfold IsDirectory at isDirectory
      unfold step at stepped
      have upwards : place.dropLast = name := by
        simpa [isDirectory, Path.isIdle] using stepped
      have above := wellFormed.isDirectory_dropLast isDirectory
      rw [upwards, IsDirectory, isFile] at above
      cases above
  rw [getLast?_of_resolve found isLast isName, Path.fileName?_of_getLast? isLast isName]

/-! ## Reading and writing -/

theorem find_eq_ok_iff {entry : FileEntry} :
    tree.find here path = .ok entry ↔
      ∃ name, tree.resolve here path = .ok name ∧ tree.entry? name = some entry := by
  unfold find
  cases tree.resolve here path with
  | error fault => simp [bind, Except.bind]
  | ok name =>
    simp only [bind, Except.bind, Except.ok.injEq, exists_eq_left']
    cases tree.entry? name <;> simp

theorem isFile_iff :
    tree.isFile here path = true ↔
      ∃ name held, tree.resolve here path = .ok name ∧ tree.entry? name = some (.file held) := by
  have found : tree.isFile here path = true ↔ ∃ held, tree.find here path = .ok (.file held) := by
    unfold isFile
    split
    next held found => simp [found]
    next notFile => simpa using fun held found => notFile held found
  rw [found, exists_comm]
  simp only [find_eq_ok_iff]

/-- A text is read if the path leads to a file with that text. -/
theorem readText_eq_ok_iff :
    tree.readText here path = .ok content ↔
      ∃ name, tree.resolve here path = .ok name ∧
        tree.entry? name = some (.file (.text content)) := by
  rw [← find_eq_ok_iff]
  unfold readText
  cases tree.find here path with
  | error fault => simp [bind, Except.bind]
  | ok entry =>
    cases entry with
    | directory => simp [bind, Except.bind]
    | file held => cases held <;> simp [bind, Except.bind]

/-- A write succeeds if the path leads to something that is no directory, and puts the file
there. -/
theorem writeText_eq_ok_iff :
    tree.writeText here path content = .ok other ↔
      ∃ name, tree.resolve here path = .ok name ∧ ¬ tree.IsDirectory name ∧
        other = tree.put name (.file (.text content)) := by
  unfold writeText IsDirectory
  cases tree.resolve here path with
  | error fault => simp [bind, Except.bind]
  | ok name =>
    simp only [bind, Except.bind, Except.ok.injEq, exists_eq_left']
    split
    · next isDirectory => simp [isDirectory]
    · next notDirectory =>
      simp only [Except.ok.injEq]
      constructor
      · rintro rfl
        exact ⟨notDirectory, rfl⟩
      · rintro ⟨-, rfl⟩
        rfl

/-- A file in the place of something that is no directory. -/
theorem sameDirectories_put_file (notDirectory : ¬ tree.IsDirectory name) (held : FileContent) :
    tree.SameDirectories (tree.put name (.file held)) := by
  have notRoot : name ≠ [] := by
    rintro rfl
    exact notDirectory rfl
  intro place
  rw [IsDirectory, entry?_put tree notRoot]
  split
  next isName =>
    subst isName
    simpa using notDirectory
  · rfl

/-! ## Making a directory -/

/-- The slashes at the end of a path to a directory do not count. -/
theorem resolve_append_slashes (count : Nat) (found : tree.resolve here path = .ok name)
    (isDirectory : tree.IsDirectory name) :
    tree.resolve here (path ++ List.replicate count '/') = .ok name := by
  obtain ⟨notEmpty, isText, followed⟩ := resolve_eq_ok_iff.1 found
  have stays : tree.step name [] = .ok name := step_of_isIdle isDirectory rfl
  have sameStart : Path.isAbsolute (path ++ List.replicate count '/') = Path.isAbsolute path := by
    cases path with
    | nil => exact absurd rfl notEmpty
    | cons c path => rfl
  rw [resolve_eq_ok_iff, sameStart, Text.splitAtEach_append_replicate, List.foldlM_append, followed]
  refine ⟨by simp [notEmpty], by simp [isText], ?_⟩
  clear sameStart
  induction count with
  | zero => rfl
  | succ count inductionHypothesis =>
    change (tree.step name [] >>= (List.replicate count []).foldlM tree.step) = .ok name
    rw [stays]
    exact inductionHypothesis

theorem exists_slashes (path : Path) :
    ∃ count, path = Text.dropRightWhile (· == '/') path ++ List.replicate count '/' := by
  have onlySlashes : ∀ c ∈ path.reverse.takeWhile (· == '/'), c = '/' := by
    intro c isTaken
    have := List.all_eq_true.1 List.all_takeWhile c isTaken
    simpa using this
  refine ⟨(path.reverse.takeWhile (· == '/')).length, ?_⟩
  rw [← List.reverse_replicate, ← List.eq_replicate_of_mem onlySlashes, Text.dropRightWhile,
    ← List.reverse_append, List.takeWhile_append_dropWhile, List.reverse_reverse]

/-- A directory is made where nothing stands. -/
theorem createDirectory_eq_ok (made : tree.createDirectory here path = .ok other) :
    ∃ shorter count name, path = shorter ++ List.replicate count '/' ∧
      tree.resolve here shorter = .ok name ∧ tree.entry? name = none ∧
        other = tree.put name .directory := by
  obtain ⟨count, slashes⟩ := exists_slashes path
  unfold createDirectory at made
  simp only [bind, Except.bind] at made
  split at made
  · cases made
  next name found =>
    split at made
    · cases made
    next absent =>
      cases made
      split at found
      · exact ⟨path, 0, name, by simp, found, absent, rfl⟩
      · exact ⟨_, count, name, slashes, found, absent, rfl⟩

end Folio.FileTree
