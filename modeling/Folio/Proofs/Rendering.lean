import Folio.Console.Run
import Folio.Proofs.Files.Host
import Folio.Proofs.Writing
import Mathlib.Data.List.TakeWhile

/-!
# What a run of `render` leaves

All that a run of `render` reads besides its sources is read before anything is written. So a run
whose configuration, template or theme cannot be had changes no file. A run that gets further makes
the output directory and then writes the pages of its sources one after another, up to the first
source that cannot be read or whose file cannot be written.
-/

namespace Folio

open World

/-! ## Loading only reads -/

theorem reads_firstThere? (paths : List Path) : Reads (host.firstThere? paths) := by
  induction paths with
  | nil => exact reads_pure none
  | cons path rest inductionHypothesis =>
    refine (reads_look fun _ _ _ => rfl).bind ?_
    rintro (_ | _)
    · exact inductionHypothesis
    · exact reads_pure (some path)

theorem reads_valuesOf (names : List Text) : Reads (host.valuesOf names) := by
  induction names with
  | nil => exact reads_pure []
  | cons name rest inductionHypothesis =>
    exact (reads_look fun _ _ _ => rfl).bind fun _ => inductionHypothesis.bind fun _ => reads_pure _

theorem reads_readConfigured (path : Path) : Reads (host.readConfigured path).run :=
  (reads_look fun _ _ _ => rfl).bind fun _ => reads_pure _

namespace Config

theorem reads_read (path : Path) : Reads (read host path).run := by
  refine (reads_readConfigured path).bindExcept fun content => ?_
  cases Stored.ofText? content with
  | none => exact reads_pure _
  | some stored => exact (reads_valuesOf _).lift.bindExcept fun _ => reads_pure _

theorem reads_discover (directory : Path) : Reads (discover host directory).run := by
  refine (reads_firstThere? _).lift.bindExcept ?_
  rintro (_ | path)
  · exact reads_pure _
  · exact reads_read path

theorem reads_load (given : Option Path) (overrides : Overrides) :
    Reads (load host given overrides).run := by
  cases given with
  | none =>
    refine (reads_look fun _ _ _ => rfl).lift.bindExcept fun directory => ?_
    exact (reads_discover directory).bindExcept fun _ => reads_pure _
  | some path =>
    refine (reads_look fun _ _ _ => rfl).lift.bindExcept ?_
    rintro (_ | _)
    · exact (reads_pure _).bindExcept fun _ => reads_pure _
    · exact (reads_read path).bindExcept fun _ => reads_pure _

theorem reads_loadLogo (base : Path) (logo : Option Text) :
    Reads (loadLogo host base logo).run := by
  cases logo with
  | none => exact reads_pure _
  | some value =>
    rw [loadLogo]
    split
    · exact reads_pure _
    · refine (reads_look fun _ _ _ => rfl).lift.bindExcept ?_
      rintro (_ | _)
      · exact reads_pure _
      · exact (reads_readConfigured _).bindExcept fun _ => reads_pure _

theorem reads_loadTheme (config : Config) : Reads (config.loadTheme host).run :=
  (reads_loadLogo _ _).bindExcept fun _ =>
    (reads_loadLogo _ _).bindExcept fun _ => reads_pure _

end Config

namespace Console

theorem reads_readFile (path : Path) : Reads (readFile host path).run :=
  (reads_look fun _ _ _ => rfl).bind fun _ => reads_pure _

theorem reads_configured {α : Type} {step : ExceptT Config.Fault (StateM World) α}
    (reads : Reads step.run) : Reads (configured step).run :=
  reads.bind fun _ => reads_pure _

/-! ## Plans -/

/-- What is known before a run of `render` writes anything: the output directory, if there is one,
and the page of a source. -/
structure RenderPlan where
  directory : Option Path
  page : Text → Page

/-- All that a run of `render` does before it writes: it loads the configuration, refuses several
sources without an output directory, reads the template and loads the theme. -/
def planRender {m : Type → Type} [Monad m] (host : Host m) (options : RenderOptions) :
    ExceptT Fault m RenderPlan := do
  let config ←
    configured (Config.load host options.config ⟨options.template, options.outputDirectory⟩)
  if config.outputDirectory.isNone && 1 < options.sources.length then
    throw .noDirectory
  let template ← readFile host config.template
  let theme ← configured (config.loadTheme host)
  return {
    directory := config.outputDirectory
    page := fun source =>
      (Renderer.ofDefaults config.defaults).render template source theme
        (options.title.map titleValues) }

/-- What a run of `render` does with its plan. -/
def carryOut {m : Type → Type} [Monad m] (host : Host m) (sources : List Path)
    (plan : RenderPlan) : ExceptT Fault m Unit := do
  makeDirectory host plan.directory
  let notices ← renderSources host plan.page plan.directory sources
  host.report (renderSummary sources.length notices)

/-- A run of `render` makes a plan and carries it out. -/
theorem runRender_eq {m : Type → Type} [Monad m] [LawfulMonad m] (host : Host m)
    (options : RenderOptions) :
    runRender host options = planRender host options >>= carryOut host options.sources := by
  unfold runRender planRender carryOut
  rw [bind_assoc]
  apply bind_congr
  intro config
  split
  · apply ExceptT.ext
    simp
  · simp only [bind_assoc, pure_bind]

theorem reads_planRender (options : RenderOptions) : Reads (planRender host options).run := by
  refine (reads_configured (Config.reads_load _ _)).bindExcept fun config => ?_
  have readsLater : ∀ page : Text → Theme → Text → Page, Reads (do
      let template ← readFile host config.template
      let theme ← configured (config.loadTheme host)
      return (⟨config.outputDirectory, page template theme⟩ : RenderPlan) :
        ExceptT Fault (StateM World) RenderPlan).run := fun page =>
    (reads_readFile _).bindExcept fun _ =>
      (reads_configured (Config.reads_loadTheme config)).bindExcept fun _ => reads_pure _
  dsimp only
  split
  · exact (reads_pure _).bindExcept fun _ => readsLater fun template theme source =>
      (Renderer.ofDefaults config.defaults).render template source theme
        (options.title.map titleValues)
  · exact readsLater fun template theme source =>
      (Renderer.ofDefaults config.defaults).render template source theme
        (options.title.map titleValues)

/-! ## Pages -/

/-- Reporting notices changes nothing but what is reported. -/
theorem run_report_notices (line : Notice → Text) (notices : List Notice) (world : World) :
    ∃ reported, (notices.forM fun notice => liftM (host.report (line notice)) :
      ExceptT Fault (StateM World) PUnit).run.run world = (.ok (), { world with reported }) := by
  induction notices generalizing world with
  | nil => exact ⟨world.reported, rfl⟩
  | cons notice rest inductionHypothesis =>
    obtain ⟨reported, later⟩ := inductionHypothesis
      { world with reported := world.reported ++ line notice ++ ['\n'] }
    exact ⟨reported, later⟩

theorem run_readFile (path : Path) (world : World) :
    (readFile host path).run.run world =
      ((world.tree.readText world.here path).mapError (.unreadable path), world) :=
  rfl

/-- A page goes into the file of its source, and nothing else but reports is changed. -/
theorem run_writePage (directory source : Path) (page : Page) (world : World) :
    ∃ reported, (writePage host (some directory) source page).run.run world =
      match world.tree.writeText world.here (outputPath directory source) page.html with
      | .ok tree => (.ok (), { world with tree, reported })
      | .error fault => (.error (.unwritable fault), world) := by
  refine ⟨world.reported ++ ("Wrote ".toList ++ outputPath directory source) ++ ['\n'], ?_⟩
  have written : (ExceptT.mk do
      return (← host.writeText (outputPath directory source) page.html).mapError Fault.unwritable :
        ExceptT Fault (StateM World) Unit).run.run world =
      match world.tree.writeText world.here (outputPath directory source) page.html with
      | .ok tree => (.ok (), { world with tree })
      | .error fault => (.error (.unwritable fault), world) := by
    change (((change _).run world).1.mapError Fault.unwritable, ((change _).run world).2) = _
    rw [run_change]
    cases world.tree.writeText world.here (outputPath directory source) page.html with
    | ok tree => rfl
    | error fault => rfl
  rw [writePage, run_bindExcept, written]
  cases world.tree.writeText world.here (outputPath directory source) page.html with
  | ok tree => rfl
  | error fault => rfl

/-- Sources are made into files up to the first one that fails. -/
theorem run_renderSources (page : Text → Page) (directory : Path) (sources : List Path)
    (world : World) :
    ∃ outcome reported,
      (renderSources host page (some directory) sources).run.run world =
        (outcome,
          { world with
            tree := (PageWriter.writeAll ⟨world.here, directory, page⟩ world.tree sources).2
            reported }) ∧
      outcome.isOk =
        (PageWriter.writeAll ⟨world.here, directory, page⟩ world.tree sources).1.isEmpty := by
  induction sources generalizing world with
  | nil => exact ⟨.ok 0, world.reported, rfl, rfl⟩
  | cons source rest inductionHypothesis =>
    rw [renderSources, run_bindExcept, run_readFile]
    simp only [PageWriter.writeAll, PageWriter.write?]
    cases read : world.tree.readText world.here source with
    | error fault => exact ⟨_, world.reported, rfl, rfl⟩
    | ok content =>
      obtain ⟨noticed, reporting⟩ := run_report_notices
        (fun notice => source ++ ": ".toList ++ notice.message) (page content).notices world
      obtain ⟨reported, writing⟩ := run_writePage directory source (page content)
        { world with reported := noticed }
      simp only [Except.mapError]
      rw [run_bindExcept, reporting]
      simp only
      rw [run_bindExcept, writing]
      simp only [PageWriter.target]
      cases written : world.tree.writeText world.here (outputPath directory source)
          (page content).html with
      | error fault => exact ⟨_, noticed, rfl, rfl⟩
      | ok tree =>
        obtain ⟨outcome, finallyReported, later, ends⟩ := inductionHypothesis
          { world with tree, reported }
        simp only [Except.toOption]
        rw [run_bindExcept, later]
        cases outcome with
        | error fault => exact ⟨_, finallyReported, rfl, ends⟩
        | ok count => exact ⟨_, finallyReported, rfl, ends⟩

theorem run_runCommand (command : ExceptT Fault (StateM World) Unit) (world : World) :
    (runCommand host command).run world =
      match command.run.run world with
      | (.ok _, after) => (0, after)
      | (.error fault, after) =>
        (1, { after with
          reported := after.reported ++ ("Error: ".toList ++ fault.message) ++ ['\n'] }) := by
  rw [runCommand, run_bind]
  generalize command.run.run world = result
  obtain ⟨outcome, after⟩ := result
  cases outcome with
  | ok done => rfl
  | error fault => rfl

theorem run_makeDirectory (directory : Path) (world : World) :
    (makeDirectory host (some directory)).run.run world =
      (((host.createDirectories directory).run world).1.mapError .unwritable,
        ((host.createDirectories directory).run world).2) :=
  rfl

/-! ## Requests and plans -/

theorem collect_eq_render {ω : Type} {add : ω → Item OptionKey → Option ω} {topic : Topic}
    {finish : ω → Request} {collected : ω} {items : List (Item OptionKey)}
    {options : RenderOptions} (asked : collect add topic finish collected items = .render options) :
    ∃ finished, finish finished = .render options := by
  fun_induction collect add topic finish collected items with
  | case1 collected => exact ⟨collected, asked⟩
  | case2 => cases asked
  | case3 collected item rest notHelp next added inductionHypothesis =>
    exact inductionHypothesis asked
  | case4 => cases asked

theorem sources_ne_nil_of_toRequest {template : Option Text} {collected options : RenderOptions}
    (asked : collected.toRequest template = .render options) : options.sources ≠ [] := by
  unfold RenderOptions.toRequest at asked
  split at asked
  · cases asked
  next notEmpty =>
    have kept : collected.sources ≠ [] := by simpa using notEmpty
    split at asked
    · cases asked
    · cases asked
      exact kept
    · cases asked
      exact kept

/-- Nobody asks to render no sources. -/
theorem sources_ne_nil_of_ofArguments {template : Option Text} {arguments : List Text}
    {options : RenderOptions} (asked : Request.ofArguments template arguments = .render options) :
    options.sources ≠ [] := by
  unfold Request.ofArguments at asked
  split at asked
  · cases asked
  · split at asked
    · obtain ⟨collected, finished⟩ := collect_eq_render asked
      exact sources_ne_nil_of_toRequest finished
    · split at asked
      · obtain ⟨collected, finished⟩ := collect_eq_render asked
        cases finished
      · split at asked
        · fun_cases helpRequest <;> simp_all [helpRequest]
        · unfold programRequest at asked
          split at asked <;> cases asked

/-- Without an output directory there is at most one source. -/
theorem length_le_one_of_planRender {options : RenderOptions} {plan : RenderPlan} {world : World}
    (planned : ((planRender host options).run.run world).1 = .ok plan)
    (noDirectory : plan.directory = none) : options.sources.length ≤ 1 := by
  unfold planRender at planned
  rw [run_bindExcept] at planned
  split at planned
  next config world loaded =>
    simp only at planned
    split at planned
    · cases planned
    next fewSources =>
      rw [run_bindExcept] at planned
      split at planned
      next template world templateRead =>
        rw [run_bindExcept] at planned
        split at planned
        next theme world themeLoaded =>
          cases planned
          simpa [show config.outputDirectory = none from noDirectory] using fewSources
        next fault world failed => cases planned
      next fault world failed => cases planned
  next fault world failed => cases planned

/-! ## Runs -/

/-- A run of `render` makes a plan, which changes nothing, and carries it out. -/
theorem run_eq_of_asked {arguments : List Text} {options : RenderOptions} {world : World}
    (asked : Request.ofArguments (world.valueOfVariable templateVariable) arguments =
      .render options) :
    (run host arguments).run world =
      (runCommand host (runRender host options)).run world := by
  change (answer host (world.valueOfVariable templateVariable)
    (Request.ofArguments (world.valueOfVariable templateVariable) arguments)).run world = _
  rw [asked]
  rfl

theorem run_runRender (options : RenderOptions) (world : World) :
    (runRender host options).run.run world =
      match ((planRender host options).run.run world).1 with
      | .ok plan => (carryOut host options.sources plan).run.run world
      | .error fault => (.error fault, world) := by
  have unchanged := (reads_planRender options).looks world
  rw [runRender_eq, run_bindExcept]
  change ((planRender host options).run.run world).2 = world at unchanged
  generalize (planRender host options).run.run world = result at unchanged ⊢
  obtain ⟨outcome, after⟩ := result
  subst unchanged
  cases outcome with
  | ok plan => rfl
  | error fault => rfl

/-- A single page without an output directory is printed. -/
theorem run_carryOut_none (page : Text → Page) (source : Path) (world : World) :
    ∃ reported, (carryOut host [source] ⟨none, page⟩).run.run world =
      match world.tree.readText world.here source with
      | .ok content =>
        (.ok (), { world with printed := world.printed ++ (page content).html, reported })
      | .error fault => (.error (.unreadable source fault), world) := by
  cases read : world.tree.readText world.here source with
  | error fault =>
    refine ⟨world.reported, ?_⟩
    rw [carryOut, run_bindExcept]
    change ((renderSources host page none [source] >>= _).run.run world) = _
    rw [run_bindExcept, renderSources, run_bindExcept, run_readFile, read]
    rfl
  | ok content =>
    obtain ⟨noticed, reporting⟩ := run_report_notices
      (fun notice => source ++ ": ".toList ++ notice.message) (page content).notices world
    refine ⟨noticed ++ renderSummary 1 (page content).notices.length ++ ['\n'], ?_⟩
    rw [carryOut, run_bindExcept]
    change ((renderSources host page none [source] >>= _).run.run world) = _
    rw [run_bindExcept, renderSources, run_bindExcept, run_readFile, read]
    simp only [Except.mapError]
    rw [run_bindExcept, reporting]
    rfl

/-- With an output directory that can be made the pages are written. -/
theorem run_carryOut_some (page : Text → Page) {directory : Path} (sources : List Path)
    {world made : World}
    (makes : (host.createDirectories directory).run world = (.ok (), made)) :
    ∃ outcome reported, (carryOut host sources ⟨some directory, page⟩).run.run world =
        (outcome,
          { made with
            tree := (PageWriter.writeAll ⟨made.here, directory, page⟩ made.tree sources).2
            reported }) ∧
      outcome.isOk =
        (PageWriter.writeAll ⟨made.here, directory, page⟩ made.tree sources).1.isEmpty := by
  obtain ⟨outcome, reported, rendering, ends⟩ := run_renderSources page directory sources made
  rw [carryOut, run_bindExcept, run_makeDirectory, makes]
  simp only [Except.mapError]
  rw [run_bindExcept, rendering]
  cases outcome with
  | ok count => exact ⟨_, _, rfl, ends⟩
  | error fault => exact ⟨_, reported, rfl, ends⟩

/-- What a run of `render` leaves. If its plan fails, nothing is printed and no file is changed.
Without an output directory it prints the page of its one source, if that can be read, and changes
no file. With an output directory that can be made, and of which no source is a file, it adds to
the directories at most those on the way there; then the files of the sources before the first one
that is not ready hold the page of the last such source with that file, and everything else is as
it was. The exit code is 0 if that are all sources, whatever their notices, and 1 otherwise. -/
theorem run_render {arguments : List Text} {options : RenderOptions} {world : World}
    (asked : Request.ofArguments (world.valueOfVariable templateVariable) arguments =
      .render options) :
    match ((planRender host options).run.run world).1 with
    | .error _ => ∃ reported, (run host arguments).run world = (1, { world with reported })
    | .ok ⟨none, page⟩ =>
      ∃ source reported, options.sources = [source] ∧
        (run host arguments).run world =
          match world.tree.readText world.here source with
          | .ok content =>
            (0, { world with printed := world.printed ++ (page content).html, reported })
          | .error _ => (1, { world with reported })
    | .ok ⟨some directory, page⟩ =>
      let writer : PageWriter := ⟨world.here, directory, page⟩
      ∀ made, (host.createDirectories directory).run world = (.ok (), made) →
        (∀ source ∈ options.sources, writer.IsApart made.tree source options.sources) →
          let done := options.sources.takeWhile (writer.isReady made.tree)
          world.tree.Grown world.here (Path.ancestors directory) made.tree ∧
            ∃ tree reported,
              (run host arguments).run world =
                (if done = options.sources then 0 else 1, { world with tree, reported }) ∧
              ∀ name, tree.entry? name = writer.entryWith? made.tree done name := by
  rw [run_eq_of_asked asked, run_runCommand, run_runRender]
  cases planned : ((planRender host options).run.run world).1 with
  | error fault => exact ⟨_, rfl⟩
  | ok plan =>
    obtain ⟨_ | directory, page⟩ := plan
    · have few := length_le_one_of_planRender planned rfl
      have some := List.length_pos_of_ne_nil (sources_ne_nil_of_ofArguments asked)
      obtain ⟨source, alone⟩ := List.length_eq_one_iff.1 (Nat.le_antisymm few some)
      obtain ⟨reported, printing⟩ := run_carryOut_none page source world
      simp only
      rw [alone, printing]
      cases read : world.tree.readText world.here source with
      | ok content => exact ⟨source, reported, rfl, by rw [read]⟩
      | error fault => exact ⟨source, _, rfl, by rw [read]⟩
    · intro made makes apart done
      obtain ⟨tree, rfl, grown⟩ : ∃ tree, made = { world with tree } ∧
          world.tree.Grown world.here (Path.ancestors directory) tree := by
        have grownTo := makes_createDirectories directory world
        rw [makes] at grownTo
        exact ⟨made.tree, grownTo.1, grownTo.2⟩
      obtain ⟨outcome, reported, writing, ends⟩ :=
        run_carryOut_some page options.sources makes
      obtain ⟨left, holds⟩ :=
        (PageWriter.holds_refl ⟨world.here, directory, page⟩ tree).writeAll apart
      refine ⟨grown, ?_⟩
      simp only
      rw [writing]
      have allDone : done = options.sources ↔ outcome.isOk = true := by
        rw [ends, left, List.isEmpty_iff, List.dropWhile_eq_nil_iff, List.takeWhile_eq_self_iff]
      cases outcome with
      | ok finished =>
        refine ⟨_, reported, ?_, holds.entries⟩
        rw [if_pos (allDone.2 rfl)]
      | error fault =>
        refine ⟨_, reported ++ ("Error: ".toList ++ fault.message) ++ ['\n'], ?_, holds.entries⟩
        rw [if_neg fun isDone => Bool.false_ne_true (allDone.1 isDone)]

/-- A site of four sources, the third of which is no text. The first two have one file. -/
def siteWithUnreadable : World where
  tree := ⟨[
    (["w".toList], .directory),
    (["w".toList, "t.html".toList], .file (.text "@body@".toList)),
    (["w".toList, "x.md".toList], .file (.text "One".toList)),
    (["w".toList, "d".toList], .directory),
    (["w".toList, "d".toList, "x.md".toList], .file (.text "Two".toList)),
    (["w".toList, "y.md".toList], .file (.binary [255])),
    (["w".toList, "z.md".toList], .file (.text "Three".toList))]⟩
  here := ["w".toList]
  environment := []
  printed := []
  reported := []

/-- What the arguments below ask for. -/
def siteOptions : RenderOptions where
  sources := ["x.md".toList, "d/x.md".toList, "y.md".toList, "z.md".toList]
  config := none
  template := some "t.html".toList
  outputDirectory := some "out/new".toList
  title := none
  verbose := false

/-- The second source takes the place of the first, and the fourth is not reached. -/
theorem run_render_up_to_unreadable :
    ∃ tree reported,
      (run host ["render".toList, "x.md".toList, "d/x.md".toList, "y.md".toList, "z.md".toList,
          "-tt.html".toList, "-oout/new".toList]).run siteWithUnreadable =
        (1, { siteWithUnreadable with tree, reported }) ∧
      tree.entry? ["w".toList, "out".toList, "new".toList, "x.html".toList] =
        some (.file (.text "<p>Two</p>\n".toList)) ∧
      tree.entry? ["w".toList, "out".toList, "new".toList, "z.html".toList] = none := by
  have asked : Request.ofArguments (siteWithUnreadable.valueOfVariable templateVariable)
      ["render".toList, "x.md".toList, "d/x.md".toList, "y.md".toList, "z.md".toList,
          "-tt.html".toList, "-oout/new".toList] = .render siteOptions := by decide +kernel
  have planned : ((planRender host siteOptions).run.run siteWithUnreadable).1 =
      .ok ⟨some "out/new".toList,
        fun source => Renderer.usual.render "@body@".toList source .plain none⟩ := by
    rfl
  have result := run_render asked
  rw [planned] at result
  obtain ⟨-, tree, reported, ran, entries⟩ := result _ rfl (by decide +kernel)
  refine ⟨tree, reported, ?_, ?_, ?_⟩
  · rw [ran, if_neg (by decide +kernel)]
  · rw [entries]
    decide +kernel
  · rw [entries]
    decide +kernel

end Console

end Folio
