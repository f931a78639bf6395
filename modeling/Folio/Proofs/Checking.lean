import Folio.Proofs.MenuFault
import Folio.Proofs.Rendering

/-!
# What a passed check says about rendering

`check` and `render` read the same things on the way to a page: the configuration, the logos of the
theme, the template and the menu. What they read does not depend on what is printed or reported, so
after a check has passed, a run of `render` with the same configuration makes its plan, and no page
of it has a notice about the menu. One thing is only looked for by `check` and not read: a template
that is there may turn out to be no text.
-/

namespace Folio

open World

namespace Config

/-- Loading a configuration with other paths is loading it and replacing the paths. -/
theorem load_eq_map {m : Type → Type} [Monad m] [LawfulMonad m] (host : Host m)
    (given : Option Path) (overrides : Overrides) :
    load host given overrides = (override · overrides) <$> load host given .none := by
  have keeps (config : Config) : config.override .none = config := rfl
  cases given with
  | none => simp [load, keeps]
  | some path =>
    simp only [load, map_bind]
    apply bind_congr
    rintro (_ | _)
    · apply ExceptT.ext
      simp
    · simp [keeps]

/-- The bodies of a configuration that is read are the built-in ones with others over them. -/
theorem exists_bodies_of_read {path : Path} {config : Config} {world : World}
    (made : ((read host path).run.run world).1 = .ok config) :
    ∃ bodies : Bodies, config.defaults = bodies.defaults := by
  obtain ⟨content, -, made⟩ := run_bindExcept_eq_ok_iff.1 made
  cases isStored : Stored.ofText? content with
  | none =>
    rw [isStored] at made
    cases made
  | some stored =>
    rw [isStored] at made
    obtain ⟨values, -, made⟩ := run_bindExcept_eq_ok_iff.1 made
    exact ⟨stored.bodies, defaults_of_ofStored made⟩

theorem exists_bodies_of_load {given : Option Path} {overrides : Overrides} {config : Config}
    {world : World} (loaded : ((load host given overrides).run.run world).1 = .ok config) :
    ∃ bodies : Bodies, config.defaults = bodies.defaults := by
  cases given with
  | some path =>
    obtain ⟨isThere, -, loaded⟩ := run_bindExcept_eq_ok_iff.1 loaded
    cases isThere with
    | false => cases loaded
    | true =>
      obtain ⟨found, made, loaded⟩ := run_bindExcept_eq_ok_iff.1 loaded
      cases loaded
      obtain ⟨bodies, same⟩ := exists_bodies_of_read made
      exact ⟨bodies, same⟩
  | none =>
    obtain ⟨directory, -, loaded⟩ := run_bindExcept_eq_ok_iff.1 loaded
    obtain ⟨found, discovered, loaded⟩ := run_bindExcept_eq_ok_iff.1 loaded
    cases loaded
    obtain ⟨place, -, made⟩ := run_bindExcept_eq_ok_iff.1 discovered
    cases place with
    | none =>
      cases made
      exact ⟨_, defaults_usual directory⟩
    | some path =>
      obtain ⟨bodies, same⟩ := exists_bodies_of_read made
      exact ⟨bodies, same⟩

/-- The theme that is loaded has the menu of the configuration. -/
theorem menu_of_loadTheme {config : Config} {theme : Theme} {world : World}
    (loaded : ((config.loadTheme host).run.run world).1 = .ok theme) :
    theme.menu = config.theme.menu := by
  obtain ⟨logo, -, loaded⟩ := run_bindExcept_eq_ok_iff.1 loaded
  obtain ⟨docsLogo, -, loaded⟩ := run_bindExcept_eq_ok_iff.1 loaded
  cases loaded
  rfl

end Config

namespace Console

theorem configured_eq_ok_iff {α : Type} {step : ExceptT Config.Fault (StateM World) α}
    {world : World} {value : α} :
    ((configured step).run.run world).1 = .ok value ↔ (step.run.run world).1 = .ok value := by
  change (step.run.run world).1.mapError Fault.config = .ok value ↔ _
  cases (step.run.run world).1 with
  | ok other => simp [Except.mapError]
  | error fault => simp [Except.mapError]

/-- A check passes only if the configuration and its theme are loaded, the template is a file and
nothing is wrong with the menu. -/
theorem loaded_of_runCheck {options : CheckOptions} {world : World}
    (passed : ((runCheck host options).run.run world).1 = .ok ()) :
    ∃ config theme,
      ((Config.load host options.config .none).run.run world).1 = .ok config ∧
        ((config.loadTheme host).run.run world).1 = .ok theme ∧
        world.tree.isFile world.here config.template = true ∧
        menuProblems config.theme.menu = [] := by
  obtain ⟨config, loaded, passed⟩ := run_bindExcept_eq_ok_iff.1 passed
  rw [(reads_configured (Config.reads_load options.config .none)).looks world] at passed
  obtain ⟨-, -, passed⟩ := run_bindExcept_eq_ok_iff.1 passed
  obtain ⟨hasTemplate, asked, passed⟩ := run_bindExcept_eq_ok_iff.1 passed
  obtain ⟨_, discarded, passed⟩ := run_bindExcept_eq_ok_iff.1 passed
  have isFile : world.tree.isFile world.here config.template = hasTemplate := Except.ok.inj asked
  have noProblem : problemsOf config hasTemplate = [] := by
    by_contra some
    rw [if_neg (by simpa using some)] at passed
    obtain ⟨-, -, thrown⟩ := run_bindExcept_eq_ok_iff.1 passed
    cases thrown
  obtain ⟨noMenuProblem, present⟩ := List.append_eq_nil_iff.1 noProblem
  have found : hasTemplate = true := by
    by_contra absent
    rw [if_neg absent] at present
    cases present
  unfold Functor.discard at discarded
  rw [map_const, Function.comp_apply, map_eq_pure_bind] at discarded
  obtain ⟨theme, themeLoaded, -⟩ := run_bindExcept_eq_ok_iff.1 discarded
  -- The theme is loaded in a world to which the source of the configuration has been reported.
  have same := congrArg Prod.fst
    (reads_configured (Config.reads_loadTheme config) world world.printed
      (world.reported ++ sourceNotice config ++ ['\n']))
  exact ⟨config, theme, configured_eq_ok_iff.1 loaded,
    configured_eq_ok_iff.1 (same.symm.trans themeLoaded), isFile.trans found,
    List.map_eq_nil_iff.1 noMenuProblem⟩

/-- With a configuration and a theme that are loaded, a run of `render` into a directory only needs
its template to have a plan. -/
theorem planRender_of_loaded {options : RenderOptions} {directory : Path} {config : Config}
    {theme : Theme} {world : World} (noTemplate : options.template = none)
    (toDirectory : options.outputDirectory = some directory)
    (loaded : ((Config.load host options.config .none).run.run world).1 = .ok config)
    (themeLoaded : ((config.loadTheme host).run.run world).1 = .ok theme) :
    ((planRender host options).run.run world).1 =
      match world.tree.readText world.here config.template with
      | .ok template =>
        .ok ⟨some directory, fun source =>
          (Renderer.ofDefaults config.defaults).render template source theme
            (options.title.map titleValues)⟩
      | .error fault => .error (.unreadable config.template fault) := by
  let used : Config := { config with outputDirectory := some directory }
  have overridden : ((Config.load host options.config ⟨none, some directory⟩).run.run world).1 =
      .ok used := by
    rw [Config.load_eq_map, map_eq_pure_bind]
    exact run_bindExcept_eq_ok_iff.2 ⟨config, loaded, rfl⟩
  have themeLoadedFor : ((used.loadTheme host).run.run world).1 = .ok theme := themeLoaded
  have configRead := (reads_configured
    (Config.reads_load options.config ⟨none, some directory⟩)).looks.run_eq world
  have themeRead := (reads_configured (Config.reads_loadTheme used)).looks.run_eq world
  rw [configured_eq_ok_iff.2 overridden] at configRead
  rw [configured_eq_ok_iff.2 themeLoadedFor] at themeRead
  unfold planRender
  rw [noTemplate, toDirectory, run_bindExcept, configRead]
  dsimp only
  rw [if_neg (by simp [used]), run_bindExcept, run_readFile]
  change _ = match world.tree.readText world.here used.template with | .ok _ => _ | .error _ => _
  cases world.tree.readText world.here used.template with
  | error fault => rfl
  | ok template =>
    simp only [Except.mapError]
    rw [run_bindExcept, themeRead]
    rfl

theorem run_eq_of_askedCheck {arguments : List Text} {options : CheckOptions} {world : World}
    (asked : Request.ofArguments (world.valueOfVariable templateVariable) arguments =
      .check options) :
    (run host arguments).run world = (runCommand host (runCheck host options)).run world := by
  change (answer host (world.valueOfVariable templateVariable)
    (Request.ofArguments (world.valueOfVariable templateVariable) arguments)).run world = _
  rw [asked]
  rfl

theorem runCheck_of_code {options : CheckOptions} {world : World}
    (passed : ((runCommand host (runCheck host options)).run world).1 = 0) :
    ((runCheck host options).run.run world).1 = .ok () := by
  rw [run_runCommand] at passed
  generalize (runCheck host options).run.run world = result at passed ⊢
  obtain ⟨_ | _, after⟩ := result
  · cases passed
  · rfl

/-- After a check has passed, a run of `render` into a directory with the same configuration and the
template of that configuration gets past all that it reads before its sources, unless the template
is no text. In that case it fails with the message that says so, and changes nothing. Otherwise it
makes its plan and carries it out, and no page of the plan has a notice about the menu. What has
been printed and reported in between is of no account. -/
theorem run_render_of_checked {checkArguments renderArguments : List Text}
    {checkOptions : CheckOptions} {options : RenderOptions} {directory : Path} {world : World}
    (noVariable : world.valueOfVariable templateVariable = none)
    (asksCheck : Request.ofArguments none checkArguments = .check checkOptions)
    (asksRender : Request.ofArguments none renderArguments = .render options)
    (sameConfig : options.config = checkOptions.config) (noTemplate : options.template = none)
    (toDirectory : options.outputDirectory = some directory)
    (passed : ((run host checkArguments).run world).1 = 0) (printed reported : Text) :
    let later : World := { world with printed, reported }
    ∃ config content,
      ((Config.load host options.config .none).run.run later).1 = .ok config ∧
      later.tree.find later.here config.template = .ok (.file content) ∧
      match content with
      | .binary _ =>
        (run host renderArguments).run later =
          (1, { later with
            reported := reported ++ ("Error: ".toList ++ ("Failed to read ".toList ++
              config.template ++ ": ".toList ++ "stream did not contain valid UTF-8".toList)) ++
              ['\n'] })
      | .text _ =>
        ∃ page, ((planRender host options).run.run later).1 = .ok ⟨some directory, page⟩ ∧
          (run host renderArguments).run later =
            (runCommand host (carryOut host options.sources ⟨some directory, page⟩)).run later ∧
          ∀ source, (page source).notices.filter Notice.isAboutMenu = [] := by
  intro later
  rw [← noVariable] at asksCheck asksRender
  rw [run_eq_of_askedCheck asksCheck] at passed
  obtain ⟨config, theme, loaded, themeLoaded, isFile, noProblem⟩ :=
    loaded_of_runCheck (runCheck_of_code passed)
  rw [← sameConfig] at loaded
  obtain ⟨name, content, resolved, held⟩ := FileTree.isFile_iff.1 isFile
  have found : world.tree.find world.here config.template = .ok (.file content) :=
    FileTree.find_eq_ok_iff.2 ⟨name, resolved, held⟩
  have loadedLater := congrArg Prod.fst
    (Config.reads_load options.config .none world printed reported)
  have planned := (congrArg Prod.fst (reads_planRender options world printed reported)).trans
    (planRender_of_loaded noTemplate toDirectory loaded themeLoaded)
  refine ⟨config, content, loadedLater.trans loaded, found, ?_⟩
  have ran : (run host renderArguments).run later =
      (runCommand host (runRender host options)).run later := run_eq_of_asked asksRender
  cases content with
  | binary octets =>
    have unreadable : world.tree.readText world.here config.template = .error .notText := by
      rw [FileTree.readText, found]
      rfl
    rw [unreadable] at planned
    rw [ran, run_runCommand, run_runRender, planned]
    rfl
  | text template =>
    have readable : world.tree.readText world.here config.template = .ok template :=
      FileTree.readText_eq_ok_iff.2 ⟨name, resolved, held⟩
    rw [readable] at planned
    refine ⟨_, planned, ?_, ?_⟩
    · rw [ran, run_runCommand, run_runRender, planned]
      exact (run_runCommand _ _).symm
    · intro source
      obtain ⟨bodies, isDefaults⟩ := Config.exists_bodies_of_load loaded
      have fromMenu := Renderer.notices_render_menu bodies .usual template source theme
        (options.title.map titleValues)
      rw [Config.menu_of_loadTheme themeLoaded,
        notices_renderMenu_of_noProblem bodies template noProblem] at fromMenu
      rw [isDefaults]
      exact fromMenu

/-- A site with a configuration that names its template and has one entry in its menu. -/
def siteWithMenu : World where
  tree := ⟨[
    (["w".toList], .directory),
    (["w".toList, "kdocs.toml".toList], .file (.text
      ("render.template = 'page.html'\n" ++
        "theme.menu = [\x7b name = 'Home', path = '/' \x7d]\n").toList)),
    (["w".toList, "page.html".toList], .file (.text "@menu@@body@".toList)),
    (["w".toList, "x.md".toList], .file (.text "One".toList))]⟩
  here := ["w".toList]
  environment := []
  printed := []
  reported := []

/-- The site passes its check and its page can be made. -/
theorem run_render_of_checked_site :
    let checkArguments := ["check".toList]
    let renderArguments := ["render".toList, "x.md".toList, "--output-dir".toList, "out".toList]
    let options : RenderOptions := ⟨["x.md".toList], none, none, some "out".toList, none, false⟩
    (siteWithMenu.valueOfVariable templateVariable = none ∧
      Request.ofArguments none checkArguments = .check ⟨none, false⟩ ∧
      Request.ofArguments none renderArguments = .render options ∧
      ((run host checkArguments).run siteWithMenu).1 = 0) ∧
    ∃ page,
      ((planRender host options).run.run siteWithMenu).1 = .ok ⟨some "out".toList, page⟩ ∧
        (run host renderArguments).run siteWithMenu =
          (runCommand host (carryOut host options.sources ⟨some "out".toList, page⟩)).run
            siteWithMenu ∧
        ∀ source, (page source).notices.filter Notice.isAboutMenu = [] := by
  intro checkArguments renderArguments options
  have noVariable : siteWithMenu.valueOfVariable templateVariable = none := by decide
  have asksCheck : Request.ofArguments none checkArguments = .check ⟨none, false⟩ := by
    decide +kernel
  have asksRender : Request.ofArguments none renderArguments = .render options := by
    decide +kernel
  have passed : ((run host checkArguments).run siteWithMenu).1 = 0 := by decide +kernel
  refine ⟨⟨noVariable, asksCheck, asksRender, passed⟩, ?_⟩
  obtain ⟨config, content, loaded, found, outcome⟩ := run_render_of_checked noVariable asksCheck
    asksRender rfl rfl rfl passed siteWithMenu.printed siteWithMenu.reported
  have template : (((Config.load host none .none).run.run siteWithMenu).1.toOption.map
      Config.template) = some "/w/page.html".toList := by
    decide +kernel
  have isText : siteWithMenu.tree.find siteWithMenu.here "/w/page.html".toList =
      .ok (.file (.text "@menu@@body@".toList)) := by
    rfl
  change ((Config.load host none .none).run.run siteWithMenu).1 = .ok config at loaded
  rw [loaded] at template
  obtain isTemplate : config.template = "/w/page.html".toList := Option.some.inj template
  rw [isTemplate] at found
  obtain rfl : .text "@menu@@body@".toList = content :=
    FileEntry.file.inj (Except.ok.inj (isText.symm.trans found))
  exact outcome

/-- A site without a configuration, the template of which is no text. -/
def siteWithBinaryTemplate : World where
  tree := ⟨[
    (["w".toList], .directory),
    (["w".toList, "template.html".toList], .file (.binary [255])),
    (["w".toList, "x.md".toList], .file (.text "One".toList))]⟩
  here := ["w".toList]
  environment := []
  printed := []
  reported := []

/-- The check of this site passes, and yet its template cannot be read. -/
theorem run_render_of_binary_template :
    let checked := (run host ["check".toList]).run siteWithBinaryTemplate
    let rendered := (run host ["render".toList, "x.md".toList, "--output-dir".toList,
      "out".toList]).run siteWithBinaryTemplate
    siteWithBinaryTemplate.valueOfVariable templateVariable = none ∧
      checked.1 = 0 ∧ checked.2.tree = siteWithBinaryTemplate.tree ∧
      rendered.1 = 1 ∧
      rendered.2.reported =
        "Error: Failed to read /w/template.html: stream did not contain valid UTF-8\n".toList := by
  decide +kernel

end Console

end Folio
