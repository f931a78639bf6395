import Folio.Proofs.Rendering

/-!
# The file of a source

The page of a source goes into the output directory under the stem of the source, so sources of one
stem have one file, in whatever directories they stand. A source whose stem no other source has
keeps its page to the end of a run: no other page is written over it, and no page is written over
the source before it is read.
-/

namespace Folio.Console

open World

variable {tree : FileTree} {here name : FullName} {directory source other : Path} {stem : Text}

/-! ## Names of output files -/

/-- The stem of a file can be given the extension of a page. -/
theorem page_name_of_fileStem? (stemmed : Path.fileStem? source = some stem) :
    stem ≠ [] ∧ '/' ∉ stem ++ ".html".toList ∧ Path.IsFileName (stem ++ ".html".toList) := by
  unfold Path.fileStem? at stemmed
  obtain ⟨file, named, rfl⟩ := Option.map_eq_some_iff.1 stemmed
  obtain ⟨isName, noSlash⟩ := Path.fileName?_eq_some named
  have notEmpty : file ≠ [] := by
    rintro rfl
    simp [Path.IsFileName, Path.isIdle] at isName
  obtain ⟨stemNotEmpty, isStart⟩ := Path.stemOfName_spec notEmpty
  refine ⟨stemNotEmpty, ?_, Path.isFileName_append_extension stemNotEmpty (by simp)⟩
  rw [List.mem_append, not_or]
  exact ⟨fun isIn => noSlash (isStart.subset isIn), by decide⟩

/-- The path to the file of a source leads to the stem of the source with the extension of a
page. -/
theorem getLast?_of_resolve_outputPath (stemmed : Path.fileStem? source = some stem)
    (leads : tree.resolve here (outputPath directory source) = .ok name) :
    name.getLast? = some (stem ++ ".html".toList) := by
  obtain ⟨-, noSlash, isName⟩ := page_name_of_fileStem? stemmed
  rw [outputPath, stemmed, Option.getD_some] at leads
  exact FileTree.getLast?_of_resolve leads (Path.getLast?_splitAtEach_join directory noSlash) isName

/-- A path to a file has a stem, and leads to a name of that stem. -/
theorem exists_fileStem?_of_file {held : FileContent} (wellFormed : tree.WellFormed)
    (leads : tree.resolve here source = .ok name) (stands : tree.entry? name = some (.file held)) :
    ∃ file, name.getLast? = some file ∧ Path.fileStem? source = some (Path.stemOfName file) := by
  have notRoot : name ≠ [] := by
    rintro rfl
    cases stands
  obtain ⟨file, isLast⟩ := Option.ne_none_iff_exists'.1 (mt List.getLast?_eq_none_iff.1 notRoot)
  have named := wellFormed.getLast?_of_file leads stands
  rw [isLast] at named
  exact ⟨file, isLast, by rw [Path.fileStem?, ← named, Option.map_some]⟩

/-- The file of another stem is not the source, whatever has become of the tree. -/
theorem resolve_outputPath_ne_of_file {held : FileContent} (wellFormed : tree.WellFormed)
    (leads : tree.resolve here source = .ok name) (stands : tree.entry? name = some (.file held))
    (stemmed : Path.fileStem? other = some stem)
    (otherStem : Path.fileStem? other ≠ Path.fileStem? source) (later : FileTree) :
    later.resolve here (outputPath directory other) ≠ .ok name := by
  intro same
  obtain ⟨file, isLast, sourceStemmed⟩ := exists_fileStem?_of_file wellFormed leads stands
  have isPage := getLast?_of_resolve_outputPath stemmed same
  obtain rfl : file = stem ++ '.' :: "html".toList := Option.some.inj (isLast.symm.trans isPage)
  have stemBack := Path.stemOfName_append_extension (page_name_of_fileStem? stemmed).1
    (show '.' ∉ "html".toList by decide)
  exact otherStem (by rw [stemmed, sourceStemmed, stemBack])

/-- Sources of different stems have different files. -/
theorem resolve_outputPath_ne {otherStem : Text} (stemmed : Path.fileStem? source = some stem)
    (otherStemmed : Path.fileStem? other = some otherStem) (different : otherStem ≠ stem)
    (leads : tree.resolve here (outputPath directory source) = .ok name) :
    tree.resolve here (outputPath directory other) ≠ .ok name := by
  intro same
  have isLast := getLast?_of_resolve_outputPath stemmed leads
  rw [getLast?_of_resolve_outputPath otherStemmed same] at isLast
  exact different (List.append_cancel_right (Option.some.inj isLast))

/-! ## Pages that are kept -/

/-- A source is read as it was at first if all pages before are those of other stems. -/
theorem readText_of_writeAll {writer : PageWriter} {made : FileTree} {before : List Path}
    {paths : List Path} {content : Text}
    (wellFormed : tree.WellFormed) (grown : tree.Grown writer.here paths made)
    (isFile : tree.isFile writer.here source = true)
    (stemmed : ∀ other ∈ before, ∃ stem, Path.fileStem? other = some stem)
    (otherStems : ∀ other ∈ before, Path.fileStem? other ≠ Path.fileStem? source)
    (read : (writer.writeAll made before).2.readText writer.here source = .ok content) :
    tree.readText writer.here source = .ok content := by
  obtain ⟨name, held, leads, stands⟩ := FileTree.isFile_iff.1 isFile
  have same := writer.sameDirectories_writeAll made before
  have leadsNow := FileTree.resolve_of_hasDirectoriesOf grown.hasDirectoriesOf leads
  have standsMade : made.entry? name = some (.file held) := by
    rcases grown name with kept | ⟨absent, -, -⟩
    · rw [kept, stands]
    · rw [absent] at stands
      cases stands
  have unwritten : ∀ other ∈ before, made.resolve writer.here (writer.target other) ≠ .ok name := by
    intro other isBefore
    obtain ⟨stem, stemmed⟩ := stemmed other isBefore
    exact resolve_outputPath_ne_of_file wellFormed leads stands stemmed
      (otherStems other isBefore) made
  obtain ⟨place, leadsLater, standsLater⟩ := FileTree.readText_eq_ok_iff.1 read
  obtain rfl : name = place :=
    Except.ok.inj (leadsNow.symm.trans (same.resolve_iff.1 leadsLater))
  rw [PageWriter.entry?_writeAll unwritten, standsMade, ← stands] at standsLater
  exact FileTree.readText_eq_ok_iff.2 ⟨name, leads, standsLater⟩

/-- A page is kept if none of the later ones has its stem. -/
theorem entry?_writeAll_of_write? {writer : PageWriter} {next : FileTree} {after : List Path}
    (written : writer.write? tree source = some next)
    (stemmed : Path.fileStem? source = some stem)
    (otherStemmed : ∀ other ∈ after, ∃ stem, Path.fileStem? other = some stem)
    (otherStems : ∀ other ∈ after, Path.fileStem? other ≠ Path.fileStem? source) :
    ∃ content name, tree.readText writer.here source = .ok content ∧
      tree.resolve writer.here (writer.target source) = .ok name ∧
        FileTree.entry? (writer.writeAll next after).2 name =
          some (.file (.text (writer.page content).html)) := by
  obtain ⟨content, name, read, leads, stands⟩ := PageWriter.entry?_target_of_write? written
  refine ⟨content, name, read, leads, ?_⟩
  rw [← stands]
  apply PageWriter.entry?_writeAll
  intro other isAfter
  obtain ⟨otherStem, otherHas⟩ := otherStemmed other isAfter
  have leadsNext := (PageWriter.sameDirectories_of_write? written).resolve_iff.2 leads
  refine resolve_outputPath_ne stemmed otherHas ?_ leadsNext
  rintro rfl
  exact otherStems other isAfter (otherHas.trans stemmed.symm)

/-- A run of `render` that succeeds has made its output directory, and has left no source. -/
theorem writeAll_of_succeeded {arguments : List Text} {options : RenderOptions} {world : World}
    {page : Text → Page}
    (asked : Request.ofArguments (world.valueOfVariable templateVariable) arguments =
      .render options)
    (planned : ((planRender host options).run.run world).1 = .ok ⟨some directory, page⟩)
    (succeeded : ((run host arguments).run world).1 = 0) :
    ∃ made, world.tree.Grown world.here (Path.ancestors directory) made ∧
      PageWriter.writeAll ⟨world.here, directory, page⟩ made options.sources =
        ([], ((run host arguments).run world).2.tree) := by
  rw [run_eq_of_asked asked, run_runCommand, run_runRender, planned] at succeeded ⊢
  simp only at succeeded ⊢
  obtain ⟨sameButTree, grown⟩ := makes_createDirectories directory world
  refine ⟨_, grown, ?_⟩
  cases makes : (host.createDirectories directory).run world with
  | mk outcome made =>
    rw [makes] at sameButTree
    cases outcome with
    | error fault =>
      have stopped : (carryOut host options.sources ⟨some directory, page⟩).run.run world =
          (.error (.unwritable fault), made) := by
        rw [carryOut, run_bindExcept, run_makeDirectory, makes]
        rfl
      rw [stopped] at succeeded
      cases succeeded
    | ok done =>
      obtain ⟨outcome, reported, writing, ends⟩ :=
        run_carryOut_some page options.sources makes
      have sameHere : made.here = world.here := by
        simp only at sameButTree
        rw [sameButTree]
      rw [writing] at succeeded ⊢
      cases outcome with
      | error fault => cases succeeded
      | ok finished =>
        rw [sameHere] at ends ⊢
        exact Prod.ext (List.isEmpty_iff.1 ends.symm) rfl

/-- The page of a source whose stem no other source has is kept. -/
theorem run_render_keeps_page {arguments : List Text} {options : RenderOptions} {world : World}
    {page : Text → Page} {before after : List Path}
    (wellFormed : world.tree.WellFormed)
    (asked : Request.ofArguments (world.valueOfVariable templateVariable) arguments =
      .render options)
    (planned : ((planRender host options).run.run world).1 = .ok ⟨some directory, page⟩)
    (row : options.sources = before ++ source :: after)
    (areFiles : ∀ other ∈ options.sources, world.tree.isFile world.here other = true)
    (ownStem : ∀ other ∈ before ++ after, Path.fileStem? other ≠ Path.fileStem? source)
    (succeeded : ((run host arguments).run world).1 = 0) :
    ∃ content name,
      world.tree.readText world.here source = .ok content ∧
      ((run host arguments).run world).2.tree.resolve world.here (outputPath directory source) =
        .ok name ∧
      FileTree.entry? ((run host arguments).run world).2.tree name =
        some (.file (.text (page content).html)) ∧
      ∀ other ∈ before ++ after,
        ((run host arguments).run world).2.tree.resolve world.here (outputPath directory other) ≠
          .ok name := by
  obtain ⟨made, grown, writing⟩ := writeAll_of_succeeded asked planned succeeded
  generalize ((run host arguments).run world).2.tree = final at writing ⊢
  have stemmed : ∀ other ∈ options.sources, ∃ stem, Path.fileStem? other = some stem := by
    intro other isSource
    obtain ⟨name, held, leads, stands⟩ := FileTree.isFile_iff.1 (areFiles other isSource)
    obtain ⟨file, -, stemmed⟩ := exists_fileStem?_of_file wellFormed leads stands
    exact ⟨_, stemmed⟩
  rw [row] at writing stemmed areFiles
  obtain ⟨stem, sourceStemmed⟩ := stemmed source (by simp)
  have othersStemmed : ∀ other ∈ before ++ after, ∃ stem, Path.fileStem? other = some stem := by
    intro other isOther
    apply stemmed other
    rcases List.mem_append.1 isOther with isBefore | isAfter
    · exact List.mem_append_left _ isBefore
    · exact List.mem_append_right _ (List.mem_cons_of_mem source isAfter)
  obtain ⟨beforeStemmed, afterStemmed⟩ := List.forall_mem_append.1 othersStemmed
  obtain ⟨beforeOther, afterOther⟩ := List.forall_mem_append.1 ownStem
  have noneLeft := PageWriter.noneLeft_of_append (congrArg Prod.fst writing)
  rw [PageWriter.writeAll_append noneLeft] at writing
  cases written : PageWriter.write? ⟨world.here, directory, page⟩
      (PageWriter.writeAll ⟨world.here, directory, page⟩ made before).2 source with
  | none => simp [PageWriter.writeAll, written] at writing
  | some next =>
    rw [PageWriter.writeAll_of_write? written] at writing
    obtain ⟨content, name, read, leads, stands⟩ :=
      entry?_writeAll_of_write? written sourceStemmed afterStemmed afterOther
    have readFirst := readText_of_writeAll wellFormed grown (areFiles source (by simp))
      beforeStemmed beforeOther read
    have same := (PageWriter.sameDirectories_of_write? written).trans
      (PageWriter.sameDirectories_writeAll ⟨world.here, directory, page⟩ next after)
    rw [writing] at stands same
    have leadsLast := same.resolve_iff.2 leads
    refine ⟨content, name, readFirst, leadsLast, stands, ?_⟩
    intro other isOther
    obtain ⟨otherStem, otherStemmed⟩ := othersStemmed other isOther
    refine resolve_outputPath_ne sourceStemmed otherStemmed ?_ leadsLast
    rintro rfl
    exact ownStem other isOther (otherStemmed.trans sourceStemmed.symm)

/-- A site of two sources of one stem in different directories. -/
def siteOfOneStem : World where
  tree := ⟨[
    (["w".toList], .directory),
    (["w".toList, "t.html".toList], .file (.text "@body@".toList)),
    (["w".toList, "a".toList], .directory),
    (["w".toList, "a".toList, "x.md".toList], .file (.text "One".toList)),
    (["w".toList, "b".toList], .directory),
    (["w".toList, "b".toList, "x.md".toList], .file (.text "Two".toList)),
    (["w".toList, "b".toList, "y.z.md".toList], .file (.text "Three".toList))]⟩
  here := ["w".toList]
  environment := []
  printed := []
  reported := []

/-- The arguments of a run for some sources of the site. -/
def siteArguments (sources : List Path) : List Text :=
  "render".toList :: "-tt.html".toList :: "-oout".toList :: sources

/-- Of two sources of one stem the second takes the file, and the page of the first is nowhere. -/
theorem run_render_of_one_stem :
    let after := (run host (siteArguments ["a/x.md".toList, "b/x.md".toList])).run siteOfOneStem
    let page (source : Text) := (Renderer.usual.render "@body@".toList source .plain none).html
    siteOfOneStem.tree.readText siteOfOneStem.here "a/x.md".toList = .ok "One".toList ∧
      siteOfOneStem.tree.readText siteOfOneStem.here "b/x.md".toList = .ok "Two".toList ∧
      after.1 = 0 ∧
      after.2.tree.readText siteOfOneStem.here "out/x.html".toList = .ok (page "Two".toList) ∧
      ∀ held ∈ after.2.tree.entries, held.2 ≠ .file (.text (page "One".toList)) := by
  decide +kernel

/-- A stem may hold a dot. -/
theorem run_render_keeps_page_of_dotted_stem :
    ∃ name, ((run host (siteArguments ["a/x.md".toList, "b/y.z.md".toList])).run
        siteOfOneStem).2.tree.resolve siteOfOneStem.here "out/y.z.html".toList = .ok name ∧
      FileTree.entry? ((run host (siteArguments ["a/x.md".toList, "b/y.z.md".toList])).run
        siteOfOneStem).2.tree name = some (.file (.text "<p>Three</p>\n".toList)) := by
  have planned : ((planRender host ⟨["a/x.md".toList, "b/y.z.md".toList], none,
      some "t.html".toList, some "out".toList, none, false⟩).run.run siteOfOneStem).1 =
      .ok ⟨some "out".toList,
        fun source => Renderer.usual.render "@body@".toList source .plain none⟩ := by
    rfl
  have succeeded : ((run host (siteArguments ["a/x.md".toList, "b/y.z.md".toList])).run
      siteOfOneStem).1 = 0 := by
    decide +kernel
  have row : ["a/x.md".toList, "b/y.z.md".toList] = ["a/x.md".toList] ++ "b/y.z.md".toList :: [] :=
    rfl
  obtain ⟨content, name, read, leads, stands, -⟩ :=
    run_render_keeps_page (by decide) (by decide +kernel) planned row (by decide +kernel)
      (by decide +kernel) succeeded
  have held : siteOfOneStem.tree.readText siteOfOneStem.here "b/y.z.md".toList =
      .ok "Three".toList := by
    decide +kernel
  obtain rfl : content = "Three".toList := Except.ok.inj (read.symm.trans held)
  have isPath : outputPath "out".toList "b/y.z.md".toList = "out/y.z.html".toList := by
    decide +kernel
  have isPage : (Renderer.usual.render "@body@".toList "Three".toList .plain none).html =
      "<p>Three</p>\n".toList := by
    decide +kernel
  rw [isPath] at leads
  rw [isPage] at stands
  exact ⟨name, leads, stands⟩

end Folio.Console
