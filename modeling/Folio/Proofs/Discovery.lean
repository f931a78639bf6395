import Folio.Config.Load
import Folio.Proofs.Files.Ancestors

/-!
# The nearest configuration file

Without a file that is asked for, the configuration of a directory is looked for on the way up from
it. The search asks for one file in each directory and stops at the first one that is there, so a
file further up never counts before a nearer one. Nothing is assumed of what is there: the set of
paths under which a host finds something may be any set.
-/

namespace Folio

namespace Host

variable {σ : Type} {host : Host (StateM σ)} {state : σ} {there : Path → Bool}

/-- In a state a host finds something under the paths of a set alone, and looking changes
nothing. -/
def Holds (host : Host (StateM σ)) (state : σ) (there : Path → Bool) : Prop :=
  ∀ path, (host.hasEntry path).run state = (there path, state)

/-- The first of some paths under which there is something. -/
theorem run_firstThere? (holds : host.Holds state there) (paths : List Path) :
    (host.firstThere? paths).run state = (paths.find? there, state) := by
  induction paths with
  | nil => rfl
  | cons path paths inductionHypothesis =>
    rw [firstThere?, StateT.run_bind, holds path, List.find?_cons]
    cases there path with
    | true => rfl
    | false => exact inductionHypothesis

end Host

/-- A world finds what its tree holds. -/
theorem World.host_holds (world : World) :
    World.host.Holds world (world.tree.hasEntry world.here) :=
  fun _ => rfl

namespace Config

variable {σ : Type} {host : Host (StateM σ)} {state : σ} {there : Path → Bool}

/-- The configuration file that is nearest to a directory. -/
def nearest? {m : Type → Type} [Monad m] (host : Host m) (directory : Path) : m (Option Path) :=
  host.firstThere? ((Path.ancestors directory).map (Path.join · fileName))

theorem run_nearest? (holds : host.Holds state there) (directory : Path) :
    (nearest? host directory).run state =
      (((Path.ancestors directory).map (Path.join · fileName)).find? there, state) :=
  Host.run_firstThere? holds _

/-- The configuration of a directory is the one of the nearest file, or the usual one. -/
theorem run_discover (host : Host (StateM σ)) (directory : Path) :
    (discover host directory).run =
      nearest? host directory >>= fun answer =>
        (answer.elim (return usual directory) (read host)).run := by
  apply (ExceptT.run_bind_lift (nearest? host directory) _).trans
  apply bind_congr
  intro answer
  cases answer <;> rfl

/-- The first file that is there, in a row of directories. -/
theorem find?_map_join_eq_some_iff {directories : List Path} {file : Path} :
    (directories.map (Path.join · fileName)).find? there = some file ↔
      ∃ nearer directory farther, directories = nearer ++ directory :: farther ∧
        file = Path.join directory fileName ∧ there file = true ∧
        ∀ other ∈ nearer, there (Path.join other fileName) = false := by
  rw [List.find?_map, Option.map_eq_some_iff]
  constructor
  · rintro ⟨directory, found, rfl⟩
    rcases List.find?_eq_some_iff_append.1 found with ⟨isThere, nearer, farther, split, none⟩
    exact ⟨nearer, directory, farther, split, rfl, isThere, by simpa using none⟩
  · rintro ⟨nearer, directory, farther, split, rfl, isThere, none⟩
    refine ⟨directory, ?_, rfl⟩
    exact List.find?_eq_some_iff_append.2 ⟨isThere, nearer, farther, split, by simpa using none⟩

/-- Whatever a host holds, the search from an absolute directory ends. It looks into the directory,
its parent and so on up to the root, which is one directory for each number of its parts, and finds
the file in the first of them that has it: none of the nearer directories has one. It finds nothing
exactly if no directory on the way up has the file. What is found decides which configuration is
used. -/
theorem nearest?_of_isAbsolute (holds : host.Holds state there) {start : Path}
    (absolute : Path.isAbsolute start = true) :
    let directories := Path.ancestors start
    let parts := Path.components start
    (Path.UpFrom start directories ∧ directories.length = parts.length + 1 ∧
      ∀ (place : Nat) (directory : Path), directories[place]? = some directory →
        Path.isAbsolute directory = true ∧ directory <+: start ∧
          Path.components directory = parts.take (parts.length - place)) ∧
    ∃ answer : Option Path,
      (nearest? host start).run state = (answer, state) ∧
        (∀ file, answer = some file ↔
          ∃ nearer directory farther, directories = nearer ++ directory :: farther ∧
            file = Path.join directory fileName ∧ there file = true ∧
            ∀ other ∈ nearer, there (Path.join other fileName) = false) ∧
        (answer = none ↔
          ∀ directory ∈ directories, there (Path.join directory fileName) = false) ∧
        (discover host start).run.run state =
          match answer with
          | some file => (read host file).run.run state
          | none => (.ok (usual start), state) := by
  intro directories parts
  have upFrom : Path.UpFrom start directories := Path.upFrom_ancestors absolute
  have found := run_nearest? holds start
  refine ⟨⟨upFrom, upFrom.components_eq_take absolute⟩, _, found, ?_, ?_, ?_⟩
  · exact fun file => find?_map_join_eq_some_iff
  · simp [directories]
  · rw [run_discover, StateT.run_bind, found]
    cases (directories.map (Path.join · fileName)).find? there <;> rfl

/-- A directory that is written with idle parts, a file in its parent and another one at the root;
none in the directory itself. -/
theorem nearest?_of_idle_parts :
    let file : FileEntry := .file (.text [])
    let tree : FileTree :=
      ⟨[(["kdocs.toml".toList], file), (["a".toList], .directory),
        (["a".toList, "kdocs.toml".toList], file), (["a".toList, "b".toList], .directory)]⟩
    let world : World := ⟨tree, [], [], [], []⟩
    let start := "/a/./b//".toList
    World.host.Holds world (tree.hasEntry []) ∧ Path.isAbsolute start = true ∧
      (nearest? World.host start).run world = (some "/a/kdocs.toml".toList, world) := by
  intro file tree world start
  have holds : World.host.Holds world (tree.hasEntry []) := World.host_holds world
  have absolute : Path.isAbsolute start = true := rfl
  rcases nearest?_of_isAbsolute holds absolute with ⟨-, answer, ran, isFound, -, -⟩
  have directories : Path.ancestors start = ["/a/./b//".toList, "/a".toList, "/".toList] := by
    decide +kernel
  have isAnswer : answer = some "/a/kdocs.toml".toList := by
    apply (isFound _).2
    refine ⟨["/a/./b//".toList], "/a".toList, ["/".toList], directories, ?_, ?_, ?_⟩
    · decide +kernel
    · decide +kernel
    · decide +kernel
  rw [isAnswer] at ran
  exact ⟨holds, absolute, ran⟩

end Config

end Folio
