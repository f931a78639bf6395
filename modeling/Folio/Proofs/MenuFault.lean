import Folio.Page
import Folio.Proofs.ContentError
import Folio.Proofs.Precedence

/-!
# The faults of a menu

A menu is looked at twice: a configuration is checked for leaves whose link is at fault, and every
page writes the menu and gives notices. The check and the writing each decide for themselves what to
make of a leaf, and they decide alike. Both go through the entries depth first, and both come to the
same faults at the same places.

Writing a menu could fail in one more way, at an entry whose template is missing. The built-in
bodies have a template for every entry, and no layer above them takes a name away.
-/

namespace Folio

/-- An entry of a menu with the positions that lead to it from the top of the menu. -/
structure PlacedEntry where
  place : List Nat
  entry : MenuEntry

namespace MenuEntry

mutual

/-- An entry at a place and all entries below it, in depth-first order. A group comes after its
children. -/
def walk (place : List Nat) : MenuEntry → List PlacedEntry
  | .leaf name path => [⟨place, .leaf name path⟩]
  | .group name path children =>
    walkFrom place 0 children ++ [⟨place, .group name path children⟩]

/-- The children of an entry and all entries below them, where the first child has the position
`position`. -/
def walkFrom (place : List Nat) (position : Nat) : List MenuEntry → List PlacedEntry
  | [] => []
  | entry :: rest => entry.walk (place ++ [position]) ++ walkFrom place (position + 1) rest

end

/-- The entry that positions lead to from a given one. -/
def descend? : MenuEntry → List Nat → Option MenuEntry
  | entry, [] => some entry
  | .leaf _ _, _ :: _ => none
  | .group _ _ children, position :: place =>
    children[position]?.bind fun child => child.descend? place

/-- The entry at a place of a menu, for which the menu counts as the children of a group. -/
def at? (menu : List MenuEntry) (place : List Nat) : Option MenuEntry :=
  (MenuEntry.group [] none menu).descend? place

mutual

theorem descend?_of_mem_walk {place : List Nat} {entry : MenuEntry} {placed : PlacedEntry}
    (member : placed ∈ entry.walk place) :
    ∃ below, placed.place = place ++ below ∧ entry.descend? below = some placed.entry := by
  cases entry with
  | leaf name path =>
    obtain rfl := List.mem_singleton.1 member
    exact ⟨[], by simp, rfl⟩
  | group name path children =>
    rcases List.mem_append.1 member with inside | isGroup
    · obtain ⟨index, below, isPlace, found⟩ := descend?_of_mem_walkFrom inside
      exact ⟨index :: below, by simpa using isPlace, found⟩
    · obtain rfl := List.mem_singleton.1 isGroup
      exact ⟨[], by simp, rfl⟩

theorem descend?_of_mem_walkFrom {place : List Nat} {position : Nat} {entries : List MenuEntry}
    {placed : PlacedEntry} (member : placed ∈ walkFrom place position entries) :
    ∃ index below, placed.place = place ++ (position + index) :: below ∧
      (entries[index]?.bind fun child => child.descend? below) = some placed.entry := by
  cases entries with
  | nil => exact absurd member List.not_mem_nil
  | cons entry rest =>
    rcases List.mem_append.1 member with inside | later
    · obtain ⟨below, isPlace, found⟩ := descend?_of_mem_walk inside
      exact ⟨0, below, by simpa using isPlace, found⟩
    · obtain ⟨index, below, isPlace, found⟩ := descend?_of_mem_walkFrom later
      exact ⟨index + 1, below, by rw [isPlace]; congr 2; omega, found⟩

end

/-- Every entry that the walk through a menu comes to stands at the place it is listed with. -/
theorem at?_of_mem_walkFrom {menu : List MenuEntry} {placed : PlacedEntry}
    (member : placed ∈ walkFrom [] 0 menu) : at? menu placed.place = some placed.entry := by
  obtain ⟨index, below, isPlace, found⟩ := descend?_of_mem_walkFrom member
  rw [isPlace, List.nil_append, Nat.zero_add]
  exact found

end MenuEntry

/-! ## Leaves -/

namespace MenuEntry

theorem linkFault?_some (name path : Text) :
    linkFault? name (some path) = if isValidLink path then none else some (.invalid path) := by
  simp [linkFault?]

theorem linkFault?_none (name : Text) :
    linkFault? name none = if isDividerName name then none else some .missing := by
  simp [linkFault?]

/-- The notice for a leaf whose link is at fault. -/
def LinkFault.notice (name : Text) : LinkFault → Notice
  | .invalid path => .invalidLink path
  | .missing => .missingLink name

/-- A leaf is written with its template exactly if the check of the menu finds nothing wrong with
its link, and otherwise the notice is about the fault that the check finds. -/
theorem leafValues_eq (name : Text) (path : Option Text) :
    leafValues name path =
      (linkFault? name path).elim
        (.ok (("NAME".toList, name) :: (path.map ("LINK".toList, ·)).toList))
        fun fault => .error (LinkFault.notice name fault) := by
  cases path with
  | some path =>
    rw [leafValues, linkFault?_some]
    split
    · rfl
    · rfl
  | none =>
    rw [leafValues, linkFault?_none]
    split
    · rfl
    · rfl

theorem renderLeaf_eq (menus : Table) (name : Text) (path : Option Text) :
    renderLeaf menus name path =
      (linkFault? name path).elim
        (fillTemplate menus (leafTemplate name)
          (("NAME".toList, name) :: (path.map ("LINK".toList, ·)).toList))
        fun fault => .ofNotice (LinkFault.notice name fault) := by
  rw [renderLeaf, leafValues_eq]
  cases linkFault? name path with
  | some fault => rfl
  | none => rfl

end MenuEntry

/-! ## The notices of a menu -/

/-- A notice with the place of the menu entry that it is given for. -/
structure PlacedNotice where
  place : List Nat
  notice : Notice

/-- The notices that an entry gets of its own, besides those of the entries below it. -/
def PlacedEntry.ownNotices (menus : Table) (placed : PlacedEntry) : List Notice :=
  match placed.entry with
  | .leaf name path => (MenuEntry.renderLeaf menus name path).notices
  | .group name _ children =>
    let items := (Noticed.lines (MenuEntry.renderEach menus placed.place.length children)).html
    (MenuEntry.renderGroup menus (placed.place.length - 1) name ⟨items, []⟩).notices

/-- The notices that writing a menu gives, with the entries that they are given for. -/
def placedNotices (menus : Table) (menu : List MenuEntry) : List PlacedNotice :=
  (MenuEntry.walkFrom [] 0 menu).flatMap fun placed =>
    (placed.ownNotices menus).map (⟨placed.place, ·⟩)

namespace MenuEntry

theorem notices_renderGroup (menus : Table) (depth : Nat) (name : Text) (children : Noticed) :
    (renderGroup menus depth name children).notices =
      children.notices ++ (renderGroup menus depth name ⟨children.html, []⟩).notices :=
  rfl

mutual

/-- Writing an entry gives the notices of all entries in it, in the order of the walk. -/
theorem notices_render (menus : Table) {place : List Nat} {depth : Nat}
    (isDepth : place.length = depth + 1) (entry : MenuEntry) :
    (entry.render menus depth).notices =
      (entry.walk place).flatMap (PlacedEntry.ownNotices menus) := by
  cases entry with
  | leaf name path => simp [render, walk, PlacedEntry.ownNotices]
  | group name path children =>
    -- The children are written first, one level deeper; the group adds what its template gives.
    have inside := notices_renderEach menus isDepth 0 children
    rw [render, walk, List.flatMap_append, ← inside, notices_renderGroup]
    simp [Noticed.lines, PlacedEntry.ownNotices, isDepth]

theorem notices_renderEach (menus : Table) {place : List Nat} {depth : Nat}
    (isDepth : place.length = depth) (position : Nat) (entries : List MenuEntry) :
    (renderEach menus depth entries).flatMap Noticed.notices =
      (walkFrom place position entries).flatMap (PlacedEntry.ownNotices menus) := by
  cases entries with
  | nil => rfl
  | cons entry rest =>
    have isDeeper : (place ++ [position]).length = depth + 1 := by simp [isDepth]
    rw [renderEach, walkFrom, List.flatMap_cons, List.flatMap_append,
      notices_render menus isDeeper entry, notices_renderEach menus isDepth (position + 1) rest]

end

end MenuEntry

theorem map_notice_placedNotices (menus : Table) (menu : List MenuEntry) :
    (placedNotices menus menu).map PlacedNotice.notice = (renderMenu menus menu).notices := by
  rw [renderMenu, Noticed.lines, MenuEntry.notices_renderEach menus List.length_nil 0 menu,
    placedNotices, List.map_flatMap]
  simp [Function.comp_def]

/-! ## The problems of a menu -/

/-- What the check of a menu finds at an entry, besides what it finds below it. -/
def PlacedEntry.ownProblems (placed : PlacedEntry) : List MenuProblem :=
  match placed.entry with
  | .leaf name path => (MenuEntry.linkFault? name path).toList.map (⟨placed.place, name, ·⟩)
  | .group _ _ _ => []

namespace MenuEntry

mutual

/-- The check of an entry goes through all entries in it, in the order of the walk. -/
theorem problems_eq_flatMap_walk (place : List Nat) (entry : MenuEntry) :
    entry.problems place = (entry.walk place).flatMap PlacedEntry.ownProblems := by
  cases entry with
  | leaf name path => simp [problems, walk, PlacedEntry.ownProblems]
  | group name path children =>
    rw [problems, walk, List.flatMap_append, problemsFrom_eq_flatMap_walkFrom place 0 children]
    simp [PlacedEntry.ownProblems]

theorem problemsFrom_eq_flatMap_walkFrom (place : List Nat) (position : Nat)
    (entries : List MenuEntry) :
    problemsFrom place position entries =
      (walkFrom place position entries).flatMap PlacedEntry.ownProblems := by
  cases entries with
  | nil => rfl
  | cons entry rest =>
    rw [problemsFrom, walkFrom, List.flatMap_append, problems_eq_flatMap_walk _ entry,
      problemsFrom_eq_flatMap_walkFrom place (position + 1) rest]

end

end MenuEntry

/-- Every problem of a menu is the fault of the leaf at its place. -/
theorem leaf_of_mem_menuProblems {menu : List MenuEntry} {problem : MenuProblem}
    (member : problem ∈ menuProblems menu) :
    ∃ path, MenuEntry.at? menu problem.place = some (.leaf problem.name path) ∧
      MenuEntry.linkFault? problem.name path = some problem.fault := by
  rw [menuProblems, MenuEntry.problemsFrom_eq_flatMap_walkFrom] at member
  obtain ⟨⟨place, entry⟩, isPlaced, isOwn⟩ := List.mem_flatMap.1 member
  cases entry with
  | leaf name path =>
    obtain ⟨fault, isFault, rfl⟩ := List.mem_map.1 isOwn
    exact ⟨path, MenuEntry.at?_of_mem_walkFrom isPlaced, Option.mem_toList.1 isFault⟩
  | group name path children => exact absurd isOwn List.not_mem_nil

/-! ## The templates of a menu -/

/-- Menu templates for every entry: none of the built-in names is without a body. -/
def Table.HasMenuTemplates (menus : Table) : Prop :=
  ∀ template ∈ Defaults.builtinMenus, ∃ body, menus.find? template.1 = some body

theorem hasMenuTemplates_of_page (bodies : Config.Bodies) (declarations : List Declaration) :
    (bodies.defaults.tables.declareAll declarations).menus.HasMenuTemplates := by
  intro template member
  exact exists_find?_of_mem_builtinEntries bodies declarations TableKind.menus member

namespace MenuEntry

variable {menus : Table}

theorem notices_fillTemplate (complete : menus.HasMenuTemplates) {template : Text}
    (isBuiltin : template ∈ Defaults.builtinMenus.map Prod.fst) (values : List (Text × Text)) :
    (fillTemplate menus template values).notices = [] := by
  obtain ⟨entry, member, rfl⟩ := List.mem_map.1 isBuiltin
  obtain ⟨body, found⟩ := complete entry member
  rw [fillTemplate, found]

theorem dropdownTemplate_mem (depth : Nat) :
    dropdownTemplate depth ∈ Defaults.builtinMenus.map Prod.fst := by
  rw [dropdownTemplate]
  split
  · decide
  · decide

theorem leafTemplate_mem (name : Text) :
    leafTemplate name ∈ Defaults.builtinMenus.map Prod.fst := by
  rw [leafTemplate]
  split
  · decide
  · decide

theorem notices_renderLeaf (complete : menus.HasMenuTemplates) (name : Text)
    (path : Option Text) :
    (renderLeaf menus name path).notices =
      (linkFault? name path).toList.map (LinkFault.notice name) := by
  rw [renderLeaf_eq]
  cases linkFault? name path with
  | some fault => rfl
  | none => exact notices_fillTemplate complete (leafTemplate_mem name) _

end MenuEntry

/-! ## Agreement -/

/-- A notice and a problem are about the same entry of a menu and of the same sort. -/
inductive PlacedNotice.Reports : PlacedNotice → MenuProblem → Prop
  | invalid (place : List Nat) (name path : Text) :
      Reports ⟨place, .invalidLink path⟩ ⟨place, name, .invalid path⟩
  | missing (place : List Nat) (name : Text) :
      Reports ⟨place, .missingLink name⟩ ⟨place, name, .missing⟩

theorem reports_notice (place : List Nat) (name : Text) (fault : LinkFault) :
    PlacedNotice.Reports ⟨place, MenuEntry.LinkFault.notice name fault⟩ ⟨place, name, fault⟩ := by
  cases fault with
  | invalid path => exact .invalid place name path
  | missing => exact .missing place name

theorem forall₂_reports_own {menus : Table} (complete : menus.HasMenuTemplates)
    (placed : PlacedEntry) :
    List.Forall₂ PlacedNotice.Reports
      ((placed.ownNotices menus).map (⟨placed.place, ·⟩)) placed.ownProblems := by
  obtain ⟨place, entry⟩ := placed
  cases entry with
  | leaf name path =>
    have notices : PlacedEntry.ownNotices menus ⟨place, .leaf name path⟩ =
        (MenuEntry.linkFault? name path).toList.map (MenuEntry.LinkFault.notice name) :=
      MenuEntry.notices_renderLeaf complete name path
    rw [notices]
    simp only [PlacedEntry.ownProblems]
    cases MenuEntry.linkFault? name path with
    | none => exact .nil
    | some fault => exact .cons (reports_notice place name fault) .nil
  | group name path children =>
    have noNotice : PlacedEntry.ownNotices menus ⟨place, .group name path children⟩ = [] :=
      MenuEntry.notices_fillTemplate complete (MenuEntry.dropdownTemplate_mem _) _
    rw [noNotice]
    exact .nil

theorem forall₂_reports {menus : Table} (complete : menus.HasMenuTemplates)
    (menu : List MenuEntry) :
    List.Forall₂ PlacedNotice.Reports (placedNotices menus menu) (menuProblems menu) := by
  rw [placedNotices, menuProblems, MenuEntry.problemsFrom_eq_flatMap_walkFrom]
  induction MenuEntry.walkFrom [] 0 menu with
  | nil => exact .nil
  | cons placed rest inductionHypothesis =>
    rw [List.flatMap_cons, List.flatMap_cons]
    exact List.rel_append (forall₂_reports_own complete placed) inductionHypothesis

/-- Whether a notice is about an entry of a menu. -/
def Notice.isAboutMenu : Notice → Bool
  | .invalidLink _ | .missingLink _ | .unknownMenuTemplate _ => true
  | _ => false

/-! ## The other notices of a page -/

theorem DeclarationBlock.Rejected.isAboutMenu {block : DeclarationBlock} {notice : Notice}
    (rejected : block.Rejected notice) : notice.isAboutMenu = false := by
  cases rejected <;> rfl

theorem Command.Unresolved.isAboutMenu {tables : Tables} {command : Command} {notice : Notice}
    (unresolved : command.Unresolved tables notice) : notice.isAboutMenu = false := by
  cases unresolved <;> rfl

theorem isAboutMenu_of_mem_harvest {template : Text} {notice : Notice}
    (member : notice ∈ (harvest template).notices) : notice.isAboutMenu = false := by
  obtain ⟨outcome, isOutcome, isNotice⟩ := List.mem_filterMap.1 member
  obtain ⟨block, -, rfl⟩ := List.mem_map.1 isOutcome
  cases rejected : block.declaration with
  | ok declaration => simp [rejected] at isNotice
  | error other =>
    obtain rfl : other = notice := by simpa [rejected] using isNotice
    exact (DeclarationBlock.declaration_eq_error_iff.1 rejected).isAboutMenu

theorem isAboutMenu_of_mem_carryOutCommands {tables : Tables} {html : Text} {notice : Notice}
    (member : notice ∈ (carryOutCommands tables html).notices) : notice.isAboutMenu = false := by
  rw [notices_carryOutCommands_eq] at member
  obtain ⟨command, -, gives⟩ := List.mem_filterMap.1 member
  exact (Command.notice_respond_eq_some_iff.1 gives).isAboutMenu

theorem isAboutMenu_of_reports {notices : List PlacedNotice} {problems : List MenuProblem}
    (reports : List.Forall₂ PlacedNotice.Reports notices problems) :
    ∀ placed ∈ notices, placed.notice.isAboutMenu = true := by
  induction reports with
  | nil => exact List.forall_mem_nil _
  | cons first _ inductionHypothesis =>
    refine List.forall_mem_cons.2 ⟨?_, inductionHypothesis⟩
    cases first with
    | invalid => rfl
    | missing => rfl

/-- The notices of a page about its menu are those that writing the menu gives. -/
theorem Renderer.notices_render_menu (bodies : Config.Bodies) (renderer : Renderer)
    (template source : Text) (theme : Theme) (given : Option Dictionary) :
    (({ renderer with defaults := bodies.defaults }).render template source theme
        given).notices.filter Notice.isAboutMenu =
      (renderMenu (bodies.defaults.tables.declareAll (harvest template).declarations).menus
        theme.menu).notices := by
  have fromTemplate : (harvest template).notices.filter Notice.isAboutMenu = [] :=
    List.filter_eq_nil_iff.2 fun notice member => by simp [isAboutMenu_of_mem_harvest member]
  have fromCommands (tables : Tables) (html : Text) :
      (carryOutCommands tables html).notices.filter Notice.isAboutMenu = [] :=
    List.filter_eq_nil_iff.2 fun notice member => by
      simp [isAboutMenu_of_mem_carryOutCommands member]
  have fromMenu := isAboutMenu_of_reports
    (forall₂_reports (hasMenuTemplates_of_page bodies (harvest template).declarations) theme.menu)
  simp only [render, List.filter_append, fromTemplate, fromCommands, List.nil_append]
  rw [← map_notice_placedNotices, List.filter_eq_self]
  intro notice member
  obtain ⟨placed, isPlaced, rfl⟩ := List.mem_map.1 member
  exact fromMenu placed isPlaced

/-- A menu without problems is written without a notice. -/
theorem notices_renderMenu_of_noProblem (bodies : Config.Bodies) (template : Text)
    {menu : List MenuEntry} (noProblem : menuProblems menu = []) :
    (renderMenu (bodies.defaults.tables.declareAll (harvest template).declarations).menus
      menu).notices = [] := by
  have sameLength := (forall₂_reports
    (hasMenuTemplates_of_page bodies (harvest template).declarations) menu).length_eq
  rw [noProblem, List.length_nil, List.length_eq_zero_iff] at sameLength
  rw [← map_notice_placedNotices, sameLength, List.map_nil]

/-- The check of a menu and every page that shows it come to the same faults: one notice for each
problem, in the same order, about the same leaf and of the same sort. So the check finds nothing
exactly when no page has a notice about its menu. -/
theorem menuProblems_agree (bodies : Config.Bodies) (menu : List MenuEntry) :
    (∀ template,
      let menus := (bodies.defaults.tables.declareAll (harvest template).declarations).menus
      (placedNotices menus menu).map PlacedNotice.notice = (renderMenu menus menu).notices ∧
      (renderMenu menus menu).notices.length = (menuProblems menu).length ∧
      List.Forall₂ PlacedNotice.Reports (placedNotices menus menu) (menuProblems menu)) ∧
    (∀ problem ∈ menuProblems menu, ∃ path,
      MenuEntry.at? menu problem.place = some (.leaf problem.name path) ∧
      MenuEntry.linkFault? problem.name path = some problem.fault) ∧
    (menuProblems menu = [] ↔
      ∀ (renderer : Renderer) (template source : Text) (theme : Theme) (given : Option Dictionary),
        (({ renderer with defaults := bodies.defaults }).render template source
          { theme with menu := menu } given).notices.filter Notice.isAboutMenu = []) := by
  have reports (template : Text) := forall₂_reports
    (hasMenuTemplates_of_page bodies (harvest template).declarations) menu
  have sameLength (template : Text) := (reports template).length_eq
  have placed (menus : Table) := map_notice_placedNotices menus menu
  refine ⟨?_, fun problem => leaf_of_mem_menuProblems, ?_, ?_⟩
  · intro template menus
    refine ⟨placed menus, ?_, reports template⟩
    rw [← placed, List.length_map, sameLength template]
  · intro noProblem renderer template source theme given
    have noNotice := sameLength template
    rw [noProblem, List.length_nil, List.length_eq_zero_iff] at noNotice
    rw [Renderer.notices_render_menu, ← placed, noNotice, List.map_nil]
  · intro noNotice
    have quiet := noNotice .usual [] [] .plain none
    rw [Renderer.notices_render_menu, ← placed, List.map_eq_nil_iff] at quiet
    rw [← List.length_eq_zero_iff, ← sameLength [], quiet, List.length_nil]

/-- A divider needs no link; a group is no link, whatever path it has. -/
example :
    menuProblems
        [.group "Guides".toList (some "guides".toList)
          [.leaf "Start".toList none,
           .group "More".toList none
             [.leaf "--".toList none, .leaf "API".toList (some "api".toList)]]]
      = [⟨[0, 0], "Start".toList, .missing⟩, ⟨[0, 1, 1], "API".toList, .invalid "api".toList⟩] := by
  decide

end Folio
