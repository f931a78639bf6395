import Folio.Files.Host
import Folio.Proofs.Files.Tree

/-!
# What a program does to a world

Most of what a program asks of its host changes nothing. Making directories only adds directories,
and only those that the paths lead to: a tree grows along these paths.
-/

namespace Folio

variable {α β : Type}

namespace World

theorem run_bind (action : StateM World α) (next : α → StateM World β) (world : World) :
    (action >>= next).run world = (next (action.run world).1).run (action.run world).2 :=
  rfl

/-- An action that may fail goes on if its first step does not. -/
theorem run_bindExcept {ε : Type} (action : ExceptT ε (StateM World) α)
    (next : α → ExceptT ε (StateM World) β) (world : World) :
    (action >>= next).run.run world =
      match action.run.run world with
      | (.ok value, after) => (next value).run.run after
      | (.error fault, after) => (.error fault, after) := by
  rw [ExceptT.run_bind, run_bind]
  generalize action.run.run world = result
  obtain ⟨outcome, after⟩ := result
  cases outcome with
  | ok value => rfl
  | error fault => rfl

/-- An action gives a result if its steps do, one after the other. -/
theorem run_bindExcept_eq_ok_iff {ε : Type} {action : ExceptT ε (StateM World) α}
    {next : α → ExceptT ε (StateM World) β} {world : World} {result : β} :
    ((action >>= next).run.run world).1 = .ok result ↔
      ∃ value, (action.run.run world).1 = .ok value ∧
        ((next value).run.run (action.run.run world).2).1 = .ok result := by
  rw [run_bindExcept]
  generalize action.run.run world = first
  obtain ⟨outcome, after⟩ := first
  cases outcome with
  | ok value => simp
  | error fault => simp

/-! ## Actions that only look -/

/-- An action that leaves every world as it is. -/
def Looks (action : StateM World α) : Prop :=
  ∀ world, (action.run world).2 = world

theorem Looks.run_eq {action : StateM World α} (looks : Looks action) (world : World) :
    action.run world = ((action.run world).1, world) :=
  Prod.ext rfl (looks world)

theorem looks_pure (value : α) : Looks (pure value) :=
  fun _ => rfl

theorem looks_look (view : World → α) : Looks (look view) :=
  fun _ => rfl

theorem Looks.bind {action : StateM World α} {next : α → StateM World β} (first : Looks action)
    (later : ∀ value, Looks (next value)) : Looks (action >>= next) := by
  intro world
  rw [run_bind, first world]
  exact later (action.run world).1 world

/-! ## Actions that only read -/

/-- An action that asks for files and variables alone: it leaves every world as it is, and what it
gives does not depend on what has been printed and reported. -/
def Reads (action : StateM World α) : Prop :=
  ∀ world printed reported, action.run { world with printed, reported } =
    ((action.run world).1, { world with printed, reported })

theorem Reads.looks {action : StateM World α} (reads : Reads action) : Looks action :=
  fun world => congrArg Prod.snd (reads world world.printed world.reported)

theorem reads_pure (value : α) : Reads (pure value) :=
  fun _ _ _ => rfl

theorem reads_look {view : World → α}
    (same : ∀ world printed reported, view { world with printed, reported } = view world) :
    Reads (look view) :=
  fun world printed reported => congrArg (·, _) (same world printed reported)

theorem Reads.bind {action : StateM World α} {next : α → StateM World β} (first : Reads action)
    (later : ∀ value, Reads (next value)) : Reads (action >>= next) := by
  intro world printed reported
  rw [run_bind, first world printed reported, run_bind, first.looks world]
  exact later (action.run world).1 world printed reported

/-- An action that may fail only reads if it does so up to where it fails. -/
theorem Reads.bindExcept {ε : Type} {action : ExceptT ε (StateM World) α}
    {next : α → ExceptT ε (StateM World) β} (first : Reads action.run)
    (later : ∀ value, Reads (next value).run) : Reads (action >>= next).run := by
  rw [ExceptT.run_bind]
  refine first.bind ?_
  rintro (fault | value)
  · exact reads_pure (Except.error fault)
  · exact later value

theorem Reads.lift {ε : Type} {action : StateM World α} (reads : Reads action) :
    Reads (liftM action : ExceptT ε (StateM World) α).run :=
  reads.bind fun value => reads_pure (Except.ok value)

end World

/-! ## Making directories -/

namespace FileTree

variable {before middle after : FileTree} {here : FullName} {path : Path} {paths : List Path}

/-- Whether a tree has become another one by new directories alone, to each of which one of some
paths leads. -/
def Grown (before : FileTree) (here : FullName) (paths : List Path) (after : FileTree) : Prop :=
  ∀ name, after.entry? name = before.entry? name ∨
    before.entry? name = none ∧ after.IsDirectory name ∧
      ∃ path ∈ paths, after.resolve here path = .ok name

theorem Grown.refl (tree : FileTree) (here : FullName) (paths : List Path) :
    tree.Grown here paths tree :=
  fun _ => .inl rfl

/-- A tree that has grown has its directories still. -/
theorem Grown.hasDirectoriesOf (grown : before.Grown here paths after) :
    after.HasDirectoriesOf before := by
  intro name isDirectory
  rcases grown name with same | ⟨absent, -, -⟩
  · rw [IsDirectory, same]
    exact isDirectory
  · rw [IsDirectory, absent] at isDirectory
    cases isDirectory

theorem Grown.trans (first : before.Grown here paths middle)
    (second : middle.Grown here paths after) : before.Grown here paths after := by
  intro name
  rcases second name with same | ⟨absent, isDirectory, onPath⟩
  · rw [same]
    rcases first name with kept | ⟨absent, isDirectory, path, isPath, leads⟩
    · exact .inl kept
    · refine .inr ⟨absent, ?_, path, isPath, ?_⟩
      · rw [IsDirectory, same]
        exact isDirectory
      · exact resolve_of_hasDirectoriesOf second.hasDirectoriesOf leads
  · rcases first name with kept | ⟨-, wasDirectory, -⟩
    · exact .inr ⟨kept ▸ absent, isDirectory, onPath⟩
    · rw [IsDirectory, absent] at wasDirectory
      cases wasDirectory

/-- The directory that is made is the only thing that is new, and the path leads to it. -/
theorem grown_of_createDirectory (made : before.createDirectory here path = .ok after)
    (isPath : path ∈ paths) : before.Grown here paths after := by
  obtain ⟨shorter, count, place, rfl, found, absent, rfl⟩ := createDirectory_eq_ok made
  have notRoot : place ≠ [] := by
    rintro rfl
    cases absent
  intro name
  rw [IsDirectory, entry?_put before notRoot]
  split
  next isPlace =>
    subst isPlace
    have isDirectory : (before.put name .directory).IsDirectory name := by
      rw [IsDirectory, entry?_put before notRoot, if_pos rfl]
    have keeps : (before.put name .directory).HasDirectoriesOf before := by
      intro other wasDirectory
      rw [IsDirectory, entry?_put before notRoot]
      split
      · rfl
      · exact wasDirectory
    have leads := resolve_append_slashes count (resolve_of_hasDirectoriesOf keeps found) isDirectory
    exact .inr ⟨absent, rfl, _, isPath, leads⟩
  · exact .inl rfl

end FileTree

/-! ## Making directories on a world -/

namespace World

open FileTree

/-- A world whose tree has grown, and which is otherwise the same. -/
def GrownTo (paths : List Path) (before after : World) : Prop :=
  after = { before with tree := after.tree } ∧
    before.tree.Grown before.here paths after.tree

theorem GrownTo.refl (paths : List Path) (world : World) : GrownTo paths world world :=
  ⟨rfl, Grown.refl world.tree world.here paths⟩

theorem GrownTo.trans {paths : List Path} {before middle after : World}
    (first : GrownTo paths before middle) (second : GrownTo paths middle after) :
    GrownTo paths before after := by
  obtain ⟨same, grown⟩ := first
  obtain ⟨sameLater, grownLater⟩ := second
  constructor
  · rw [sameLater, same]
  · rw [same] at grownLater
    exact grown.trans grownLater

/-- An action that at most makes directories to which some paths lead. -/
def Makes (paths : List Path) (action : StateM World α) : Prop :=
  ∀ world, GrownTo paths world (action.run world).2

theorem Looks.makes {action : StateM World α} (looks : Looks action) (paths : List Path) :
    Makes paths action := by
  intro world
  rw [looks world]
  exact GrownTo.refl paths world

theorem Makes.bind {paths : List Path} {action : StateM World α} {next : α → StateM World β}
    (first : Makes paths action) (later : ∀ value, Makes paths (next value)) :
    Makes paths (action >>= next) := by
  intro world
  rw [run_bind]
  exact (first world).trans (later (action.run world).1 (action.run world).2)

theorem run_change (edit : World → Except FileFault FileTree) (world : World) :
    (change edit).run world =
      match edit world with
      | .ok tree => (.ok (), { world with tree })
      | .error fault => (.error fault, world) := by
  change (match edit world with | .ok _ => _ | .error _ => _ : StateM World _).run world = _
  cases edit world with
  | ok tree => rfl
  | error fault => rfl

theorem makes_createDirectory {paths : List Path} {path : Path} (isPath : path ∈ paths) :
    Makes paths (host.createDirectory path) := by
  intro world
  change GrownTo paths world ((change _).run world).2
  rw [run_change]
  cases made : world.tree.createDirectory world.here path with
  | ok tree => exact ⟨rfl, grown_of_createDirectory made isPath⟩
  | error fault => exact GrownTo.refl paths world

/-- Making a directory and those above it makes no others. -/
theorem makes_createEach {paths among : List Path} (areAmong : paths ⊆ among) :
    Makes among (host.createEach paths) := by
  have asks (path : Path) (fault : FileFault) : Looks (do
      return if ← host.isDirectory path then Except.ok () else Except.error fault) :=
    (looks_look _).bind fun _ => looks_pure _
  induction paths with
  | nil => exact (looks_pure _).makes among
  | cons path above inductionHypothesis =>
    obtain ⟨isAmong, aboveAmong⟩ := List.cons_subset.1 areAmong
    have makesPath := makes_createDirectory isAmong
    rw [Host.createEach]
    split
    · exact (looks_pure _).makes among
    · refine makesPath.bind ?_
      rintro (fault | made)
      · by_cases isMissing : fault = .missing
        · subst isMissing
          refine (inductionHypothesis aboveAmong).bind ?_
          rintro (faultAbove | madeAbove)
          · exact (looks_pure _).makes among
          · refine makesPath.bind ?_
            rintro (fault | made)
            · exact (asks path fault).makes among
            · exact (looks_pure _).makes among
        · split
          next isMade => cases isMade
          next isFault => cases isFault; exact absurd rfl isMissing
          next isFault => exact (asks path _).makes among
      · exact (looks_pure _).makes among

theorem makes_createDirectories (path : Path) :
    Makes (Path.ancestors path) (host.createDirectories path) :=
  makes_createEach (List.Subset.refl _)

end World

end Folio
