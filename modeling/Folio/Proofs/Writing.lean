import Folio.Console.Render
import Folio.Proofs.Files.Tree

/-!
# Writing pages into a directory

Sources are read one after another, and the page of each is written into a file of the output
directory. A write changes no directory, so all paths lead where they did before; what a path finds
is changed by the last page that is written there.
-/

namespace Folio

/-- What makes files of sources: the directory from which paths start, the output directory and
the page of a source. -/
structure PageWriter where
  here : FullName
  directory : Path
  page : Text → Page

namespace PageWriter

variable {writer : PageWriter} {tree made next : FileTree} {source : Path}
  {sources done rest : List Path} {name : FullName}

/-- The path of the file for a source. -/
def target (writer : PageWriter) (source : Path) : Path :=
  Console.outputPath writer.directory source

/-- Reads a source and writes its page, if both can be done. -/
def write? (writer : PageWriter) (tree : FileTree) (source : Path) : Option FileTree :=
  match tree.readText writer.here source with
  | .error _ => none
  | .ok content =>
    (tree.writeText writer.here (writer.target source) (writer.page content).html).toOption

/-- Writes the pages of sources up to the first one that fails. Gives the sources that are left and
the tree with the pages. -/
def writeAll (writer : PageWriter) : FileTree → List Path → List Path × FileTree
  | tree, [] => ([], tree)
  | tree, source :: rest =>
    match writer.write? tree source with
    | some next => writer.writeAll next rest
    | none => (source :: rest, tree)

/-! ## One page -/

/-- A page is written where the path leads, unless that is a directory. -/
theorem write?_eq_some_iff :
    writer.write? tree source = some next ↔
      ∃ content name, tree.readText writer.here source = .ok content ∧
        tree.resolve writer.here (writer.target source) = .ok name ∧ ¬ tree.IsDirectory name ∧
          next = tree.put name (.file (.text (writer.page content).html)) := by
  unfold write?
  cases tree.readText writer.here source with
  | error fault => simp
  | ok content =>
    simp only [Except.ok.injEq, exists_eq_left', exists_and_left]
    rw [← FileTree.writeText_eq_ok_iff]
    cases tree.writeText writer.here (writer.target source) (writer.page content).html with
    | error fault => simp [Except.toOption]
    | ok written => simp [Except.toOption, eq_comm]

theorem sameDirectories_of_write? (written : writer.write? tree source = some next) :
    tree.SameDirectories next := by
  obtain ⟨content, name, -, -, notDirectory, rfl⟩ := write?_eq_some_iff.1 written
  exact FileTree.sameDirectories_put_file notDirectory _

/-- What stands where no page is written stays. -/
theorem entry?_of_write? (written : writer.write? tree source = some next)
    (elsewhere : tree.resolve writer.here (writer.target source) ≠ .ok name) :
    next.entry? name = tree.entry? name := by
  obtain ⟨content, place, -, leads, notDirectory, rfl⟩ := write?_eq_some_iff.1 written
  have notRoot : place ≠ [] := by
    rintro rfl
    exact notDirectory rfl
  rw [FileTree.entry?_put tree notRoot, if_neg]
  rintro rfl
  exact elsewhere leads

/-- The page of a source whose file can be written stands there. -/
theorem entry?_target_of_write? (written : writer.write? tree source = some next) :
    ∃ content name, tree.readText writer.here source = .ok content ∧
      tree.resolve writer.here (writer.target source) = .ok name ∧
        next.entry? name = some (.file (.text (writer.page content).html)) := by
  obtain ⟨content, place, read, leads, notDirectory, rfl⟩ := write?_eq_some_iff.1 written
  have notRoot : place ≠ [] := by
    rintro rfl
    exact notDirectory rfl
  exact ⟨content, place, read, leads, by rw [FileTree.entry?_put tree notRoot, if_pos rfl]⟩

/-! ## Any number of pages -/

theorem writeAll_of_write? (written : writer.write? tree source = some next) :
    writer.writeAll tree (source :: rest) = writer.writeAll next rest := by
  simp [writeAll, written]

/-- Sources are written one row after another, if none of the first row is left. -/
theorem writeAll_append (noneLeft : (writer.writeAll tree done).1 = []) :
    writer.writeAll tree (done ++ rest) = writer.writeAll (writer.writeAll tree done).2 rest := by
  induction done generalizing tree with
  | nil => rfl
  | cons source done inductionHypothesis =>
    cases written : writer.write? tree source with
    | none => simp [writeAll, written] at noneLeft
    | some next =>
      rw [List.cons_append, writeAll_of_write? written, writeAll_of_write? written]
      rw [writeAll_of_write? written] at noneLeft
      exact inductionHypothesis noneLeft

/-- If no source is left of two rows, then none is left of the first. -/
theorem noneLeft_of_append (noneLeft : (writer.writeAll tree (done ++ rest)).1 = []) :
    (writer.writeAll tree done).1 = [] := by
  induction done generalizing tree with
  | nil => rfl
  | cons source done inductionHypothesis =>
    cases written : writer.write? tree source with
    | none => simp [writeAll, written] at noneLeft
    | some next =>
      rw [List.cons_append, writeAll_of_write? written] at noneLeft
      rw [writeAll_of_write? written]
      exact inductionHypothesis noneLeft

theorem sameDirectories_writeAll (writer : PageWriter) (tree : FileTree) (sources : List Path) :
    tree.SameDirectories (writer.writeAll tree sources).2 := by
  induction sources generalizing tree with
  | nil => exact .refl tree
  | cons source rest inductionHypothesis =>
    cases written : writer.write? tree source with
    | none =>
      rw [writeAll, written]
      exact .refl tree
    | some next =>
      rw [writeAll_of_write? written]
      exact (sameDirectories_of_write? written).trans (inductionHypothesis next)

/-- What stands where no source is written stays. -/
theorem entry?_writeAll
    (elsewhere : ∀ source ∈ sources, tree.resolve writer.here (writer.target source) ≠ .ok name) :
    FileTree.entry? (writer.writeAll tree sources).2 name = tree.entry? name := by
  induction sources generalizing tree with
  | nil => rfl
  | cons source rest inductionHypothesis =>
    obtain ⟨firstElsewhere, restElsewhere⟩ := List.forall_mem_cons.1 elsewhere
    cases written : writer.write? tree source with
    | none => rw [writeAll, written]
    | some next =>
      have same := sameDirectories_of_write? written
      rw [writeAll_of_write? written, ← entry?_of_write? written firstElsewhere]
      apply inductionHypothesis
      intro other isRest leads
      exact restElsewhere other isRest (same.resolve_iff.1 leads)

/-! ## Which page stands where -/

/-- Whether a source can be read and its file written. -/
def isReady (writer : PageWriter) (tree : FileTree) (source : Path) : Bool :=
  (writer.write? tree source).isSome

/-- The page that a source has in a tree. -/
def pageOf (writer : PageWriter) (tree : FileTree) (source : Path) : Text :=
  (writer.page ((tree.readText writer.here source).toOption.getD [])).html

/-- The last of some sources whose file is the one under a full name. -/
def lastSource? (writer : PageWriter) (tree : FileTree) (sources : List Path) (name : FullName) :
    Option Path :=
  sources.reverse.find? fun source =>
    tree.resolve writer.here (writer.target source) == .ok name

/-- What stands under a full name after the pages of some sources have been written into a tree:
the page of the last source with that file, or what stood there before. -/
def entryWith? (writer : PageWriter) (tree : FileTree) (sources : List Path) (name : FullName) :
    Option FileEntry :=
  match writer.lastSource? tree sources name with
  | some source => some (.file (.text (writer.pageOf tree source)))
  | none => tree.entry? name

/-- A tree into which the pages of some sources have been written. -/
structure Holds (writer : PageWriter) (made : FileTree) (done : List Path) (tree : FileTree) :
    Prop where
  sameDirectories : made.SameDirectories tree
  entries : ∀ name, tree.entry? name = writer.entryWith? made done name

/-- Whether a source is no file that is written for one of some sources. -/
def IsApart (writer : PageWriter) (tree : FileTree) (source : Path) (sources : List Path) : Prop :=
  ∀ other ∈ sources, ∀ name, tree.resolve writer.here source = .ok name →
    tree.resolve writer.here (writer.target other) ≠ .ok name

instance (writer : PageWriter) (tree : FileTree) (source : Path) (sources : List Path) :
    Decidable (writer.IsApart tree source sources) :=
  decidable_of_iff
    (∀ other ∈ sources, ∀ name ∈ (tree.resolve writer.here source).toOption,
      tree.resolve writer.here (writer.target other) ≠ .ok name) <| by
    cases found : tree.resolve writer.here source <;> simp [IsApart, found, Except.toOption]

theorem lastSource?_eq_none
    (elsewhere : ∀ source ∈ sources, tree.resolve writer.here (writer.target source) ≠ .ok name) :
    writer.lastSource? tree sources name = none := by
  rw [lastSource?, List.find?_eq_none]
  intro source isReversed
  rw [beq_iff_eq]
  exact elsewhere source (List.mem_reverse.1 isReversed)

theorem lastSource?_concat :
    writer.lastSource? tree (done ++ [source]) name =
      if tree.resolve writer.here (writer.target source) = .ok name then some source
      else writer.lastSource? tree done name := by
  rw [lastSource?, List.reverse_concat, List.find?_cons]
  by_cases leads : tree.resolve writer.here (writer.target source) = .ok name
  · simp [leads]
  · rw [if_neg leads, beq_eq_false_iff_ne.2 leads]
    rfl

/-- A source that is no file of those already written is read as before. -/
theorem readText_of_holds (holds : writer.Holds made done tree)
    (apart : writer.IsApart made source done) {content : Text} :
    tree.readText writer.here source = .ok content ↔
      made.readText writer.here source = .ok content := by
  rw [FileTree.readText_eq_ok_iff, FileTree.readText_eq_ok_iff]
  apply exists_congr
  intro name
  rw [holds.sameDirectories.resolve_iff]
  apply and_congr_right
  intro leads
  have unwritten : writer.lastSource? made done name = none :=
    lastSource?_eq_none fun other isDone => apart other isDone name leads
  rw [holds.entries name, entryWith?, unwritten]

/-- The page of one more source. -/
theorem Holds.write? (holds : writer.Holds made done tree)
    (apart : writer.IsApart made source done)
    (ready : writer.isReady made source = true) :
    ∃ next, writer.write? tree source = some next ∧ writer.Holds made (done ++ [source]) next := by
  obtain ⟨made', written⟩ := Option.isSome_iff_exists.1 ready
  obtain ⟨content, place, read, leads, notDirectory, -⟩ := write?_eq_some_iff.1 written
  have written : writer.write? tree source =
      some (tree.put place (.file (.text (writer.page content).html))) :=
    write?_eq_some_iff.2 ⟨content, place, (readText_of_holds holds apart).2 read,
      holds.sameDirectories.resolve_iff.2 leads,
      fun isDirectory => notDirectory ((holds.sameDirectories place).1 isDirectory), rfl⟩
  have notRoot : place ≠ [] := by
    rintro rfl
    exact notDirectory rfl
  refine ⟨_, written, holds.sameDirectories.trans (sameDirectories_of_write? written), ?_⟩
  intro name
  rw [FileTree.entry?_put tree notRoot, entryWith?, lastSource?_concat, leads]
  by_cases isPlace : name = place
  · subst isPlace
    rw [if_pos rfl, if_pos rfl]
    simp only [pageOf, read, Except.toOption, Option.getD_some]
  · rw [if_neg isPlace, if_neg fun same => isPlace (Except.ok.inj same).symm]
    exact holds.entries name

/-- What cannot be read or written at first cannot be later. -/
theorem write?_eq_none_of_holds (holds : writer.Holds made done tree)
    (apart : writer.IsApart made source done)
    (notReady : writer.isReady made source = false) : writer.write? tree source = none := by
  rw [Option.eq_none_iff_forall_ne_some]
  intro next written
  obtain ⟨content, place, read, leads, notDirectory, -⟩ := write?_eq_some_iff.1 written
  have ready : writer.write? made source =
      some (made.put place (.file (.text (writer.page content).html))) :=
    write?_eq_some_iff.2 ⟨content, place, (readText_of_holds holds apart).1 read,
      holds.sameDirectories.resolve_iff.1 leads,
      fun isDirectory => notDirectory ((holds.sameDirectories place).2 isDirectory), rfl⟩
  simp [isReady, ready] at notReady

/-- Pages are written up to the first source that is not ready. -/
theorem Holds.writeAll (holds : writer.Holds made done tree)
    (apart : ∀ source ∈ done ++ rest, writer.IsApart made source (done ++ rest)) :
    (writer.writeAll tree rest).1 = rest.dropWhile (writer.isReady made) ∧
      writer.Holds made (done ++ rest.takeWhile (writer.isReady made))
        (writer.writeAll tree rest).2 := by
  induction rest generalizing done tree with
  | nil => simpa [PageWriter.writeAll] using holds
  | cons source rest inductionHypothesis =>
    have apartSource : writer.IsApart made source done :=
      fun other isDone => apart source (by simp) other (by simp [isDone])
    cases ready : writer.isReady made source with
    | false =>
      have refused := write?_eq_none_of_holds holds apartSource ready
      simpa [PageWriter.writeAll, refused, ready] using holds
    | true =>
      obtain ⟨next, written, holdsNext⟩ := holds.write? apartSource ready
      rw [writeAll_of_write? written, List.dropWhile_cons_of_pos ready,
        List.takeWhile_cons_of_pos ready, List.append_cons done]
      apply inductionHypothesis holdsNext
      rwa [← List.append_cons]

theorem holds_refl (writer : PageWriter) (tree : FileTree) : writer.Holds tree [] tree :=
  ⟨.refl tree, fun _ => rfl⟩

end PageWriter

end Folio
