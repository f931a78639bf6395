import Folio.Proofs.ContentError
import Folio.Proofs.Harvest
import Folio.Proofs.MenuFault

/-!
# The notices of a page account for its content errors

Three passes give notices: the template is harvested, the commands are carried out and the menu is
written. Each of them goes through items in an order of its own, gives one notice for every item
that is at fault and none for any other. A block or a heading at fault also leaves the fragment of
its notice in its place, so nothing is dropped in silence.
-/

namespace Folio

/-- Notices account for items: in the order of the items, there is one for each item that a notice
is due for, and there are no others. -/
def Accounts {α : Type} (due : α → Notice → Prop) (items : List α) (notices : List Notice) : Prop :=
  ∃ given : α → Option Notice,
    (∀ item notice, given item = some notice ↔ due item notice) ∧ notices = items.filterMap given

/-- Items that each give one notice at most, and only one that is due. -/
theorem accounts_flatMap {α : Type} {due : α → Notice → Prop} {give : α → List Notice}
    (atMostOne : ∀ item, (give item).length ≤ 1)
    (exact : ∀ item notice, notice ∈ give item ↔ due item notice) (items : List α) :
    Accounts due items (items.flatMap give) := by
  have whole (item : α) : give item = (give item).head?.toList := by
    have := atMostOne item
    match found : give item with
    | [] => rfl
    | [notice] => rfl
    | _ :: _ :: _ => simp [found] at this
  refine ⟨fun item => (give item).head?, ?_, ?_⟩
  · intro item notice
    rw [← exact, whole item]
    simp
  · rw [List.filterMap_eq_flatMap_toList]
    exact List.flatMap_congr fun item _ => whole item

/-- What is written in the place of an item of a text. -/
structure ItemInPlace (α : Type) where
  source : Text
  value : α
  fragment : Text

/-- One text is another with something written in the place of every item, and in the place of an
item that a notice is due for stands the fragment of the notice. -/
def ShowsNotices {α : Type} (recognise : Text.Recogniser α) (due : α → Notice → Prop)
    (text written : Text) : Prop :=
  ∃ page : List (Piece (ItemInPlace α)),
    page.map (Piece.map ItemInPlace.value) = Text.pieces recognise text ∧
    page.flatMap (Piece.expand ItemInPlace.source) = text ∧
    page.flatMap (Piece.expand ItemInPlace.fragment) = written ∧
    ∀ item ∈ Piece.items page, ∀ notice, due item.value notice →
      item.fragment =
        "<div class='ui negative message'>".toList ++ Entity.quote notice.message ++
          "</div>".toList

/-! ## Declaration blocks -/

theorem accounts_harvest (template : Text) :
    Accounts DeclarationBlock.Rejected (Text.items DeclarationBlock.block? template)
      (harvest template).notices := by
  have notices : (harvest template).notices = _ := List.filterMap_map
  refine ⟨_, ?_, notices⟩
  intro block notice
  rw [← DeclarationBlock.declaration_eq_error_iff, Function.comp_apply]
  cases block.declaration <;> simp

/-- A rejected block is replaced by the fragment of its notice. -/
theorem showsNotices_harvest (template : Text) :
    ShowsNotices DeclarationBlock.block? DeclarationBlock.Rejected template
      (harvest template).template := by
  let place (item : Text × DeclarationBlock) : ItemInPlace DeclarationBlock :=
    ⟨item.1, item.2, DeclarationBlock.replacement item.2.declaration⟩
  let pieces := Text.pieces (Text.withSource DeclarationBlock.block?) template
  have values : pieces.map (Piece.map Prod.snd) = Text.pieces DeclarationBlock.block? template :=
    Text.map_pieces_withSource DeclarationBlock.block?_proper template
  refine ⟨pieces.map (Piece.map place), ?_, ?_, ?_, ?_⟩
  · rw [Piece.map_map_map]
    exact values
  · rw [Piece.flatMap_expand_map_map]
    exact Text.expand_pieces_withSource DeclarationBlock.block?_proper template
  · rw [harvest, Text.substitute, ← values, Piece.flatMap_expand_map_map,
      Piece.flatMap_expand_map_map]
    rfl
  · intro item member notice rejected
    rw [Piece.items_map] at member
    obtain ⟨block, -, rfl⟩ := List.mem_map.1 member
    simp only [place, DeclarationBlock.declaration_eq_error_iff.2 rejected]
    rfl

/-! ## Command headings -/

theorem accounts_carryOutCommands (tables : Tables) (html : Text) :
    Accounts (Command.Unresolved tables) (Text.items Command.command? html)
      (carryOutCommands tables html).notices :=
  ⟨fun command => (command.respond tables none).notice,
    fun _ _ => Command.notice_respond_eq_some_iff, notices_carryOutCommands_eq tables html⟩

/-- A heading that resolves to nothing is replaced by the fragment of its notice. -/
theorem showsNotices_carryOutCommands (tables : Tables) (html : Text) :
    ShowsNotices Command.command? (Command.Unresolved tables) html
      (carryOutCommands tables html).html := by
  let place (heading : CommandHeading) : ItemInPlace Command :=
    ⟨heading.source, heading.command, heading.fragment⟩
  let pieces := Text.pieces (Text.withSource Command.command?) html
  let page := CommandHeading.place tables none pieces
  have values : pieces.map (Piece.map Prod.snd) = Text.pieces Command.command? html :=
    Text.map_pieces_withSource Command.command?_proper html
  refine ⟨page.map (Piece.map place), ?_, ?_, ?_, ?_⟩
  · rw [Piece.map_map_map]
    exact (CommandHeading.map_command_place tables none pieces).trans values
  · rw [Piece.flatMap_expand_map_map]
    exact (CommandHeading.expand_source_place tables none pieces).trans
      (Text.expand_pieces_withSource Command.command?_proper html)
  · rw [Piece.flatMap_expand_map_map]
    have fragments := CommandHeading.expand_fragment_place tables none pieces
    rw [values] at fragments
    exact fragments
  · intro item member notice unresolved
    rw [Piece.items_map] at member
    obtain ⟨heading, isHeading, rfl⟩ := List.mem_map.1 member
    obtain ⟨position, found⟩ := List.mem_iff_getElem?.1 isHeading
    have fragment := CommandHeading.fragment_eq_of_place tables found
    rw [Command.Unresolved.respond_eq unresolved] at fragment
    exact fragment

/-! ## Menu entries -/

/-- A menu entry cannot be written, and the notice says why. -/
inductive PlacedEntry.Fails (menus : Table) : PlacedEntry → Notice → Prop
  /-- The link of a leaf is neither an absolute path nor a web address. -/
  | invalidLink {place : List Nat} {name path : Text} (invalid : isValidLink path = false) :
      Fails menus ⟨place, .leaf name (some path)⟩ (.invalidLink path)
  /-- A leaf that is no divider has no link. -/
  | missingLink {place : List Nat} {name : Text}
      (noDivider : MenuEntry.isDividerName name = false) :
      Fails menus ⟨place, .leaf name none⟩ (.missingLink name)
  /-- The template for a leaf in order is missing. -/
  | leafTemplate {place : List Nat} {name : Text} {path : Option Text}
      (inOrder : MenuEntry.linkFault? name path = none)
      (absent : menus.find? (MenuEntry.leafTemplate name) = none) :
      Fails menus ⟨place, .leaf name path⟩ (.unknownMenuTemplate (MenuEntry.leafTemplate name))
  /-- The template for a group, at the top of the menu or inside of another group, is missing. -/
  | groupTemplate {place : List Nat} {name : Text} {path : Option Text}
      {children : List MenuEntry} (depth : Nat) (isDepth : depth = place.length - 1)
      (absent : menus.find? (MenuEntry.dropdownTemplate depth) = none) :
      Fails menus ⟨place, .group name path children⟩
        (.unknownMenuTemplate (MenuEntry.dropdownTemplate depth))

theorem MenuEntry.notices_fillTemplate_eq (menus : Table) (template : Text)
    (values : List (Text × Text)) :
    (fillTemplate menus template values).notices =
      if menus.find? template = none then [.unknownMenuTemplate template] else [] := by
  rw [fillTemplate]
  cases menus.find? template with
  | none => rfl
  | some body => rfl

namespace PlacedEntry

theorem ownNotices_leaf (menus : Table) (place : List Nat) (name : Text) (path : Option Text) :
    ownNotices menus ⟨place, .leaf name path⟩ =
      match MenuEntry.linkFault? name path with
      | some fault => [MenuEntry.LinkFault.notice name fault]
      | none =>
        if menus.find? (MenuEntry.leafTemplate name) = none then
          [.unknownMenuTemplate (MenuEntry.leafTemplate name)]
        else [] := by
  have own : ownNotices menus ⟨place, .leaf name path⟩ =
      (MenuEntry.renderLeaf menus name path).notices := rfl
  rw [own, MenuEntry.renderLeaf_eq]
  cases MenuEntry.linkFault? name path with
  | some fault => rfl
  | none => exact MenuEntry.notices_fillTemplate_eq menus _ _

theorem ownNotices_group (menus : Table) (place : List Nat) (name : Text) (path : Option Text)
    (children : List MenuEntry) :
    ownNotices menus ⟨place, .group name path children⟩ =
      if menus.find? (MenuEntry.dropdownTemplate (place.length - 1)) = none then
        [.unknownMenuTemplate (MenuEntry.dropdownTemplate (place.length - 1))]
      else [] :=
  MenuEntry.notices_fillTemplate_eq menus _ _

theorem length_ownNotices_le (menus : Table) (placed : PlacedEntry) :
    (placed.ownNotices menus).length ≤ 1 := by
  obtain ⟨place, entry⟩ := placed
  cases entry with
  | leaf name path =>
    rw [ownNotices_leaf]
    split
    · exact Nat.le_refl 1
    · split <;> simp
  | group name path children =>
    rw [ownNotices_group]
    split <;> simp

/-- An entry gets a notice of its own exactly if it fails. -/
theorem mem_ownNotices_iff {menus : Table} {placed : PlacedEntry} {notice : Notice} :
    notice ∈ placed.ownNotices menus ↔ placed.Fails menus notice := by
  constructor
  · intro member
    obtain ⟨place, entry⟩ := placed
    cases entry with
    | leaf name path =>
      rw [ownNotices_leaf] at member
      split at member
      · next fault isFault =>
        obtain rfl := List.mem_singleton.1 member
        cases path with
        | some path =>
          rw [MenuEntry.linkFault?_some] at isFault
          split at isFault
          · cases isFault
          · next invalid =>
            obtain rfl := Option.some.inj isFault
            exact .invalidLink (Bool.not_eq_true _ ▸ invalid)
        | none =>
          rw [MenuEntry.linkFault?_none] at isFault
          split at isFault
          · cases isFault
          · next noDivider =>
            obtain rfl := Option.some.inj isFault
            exact .missingLink (Bool.not_eq_true _ ▸ noDivider)
      · next inOrder =>
        split at member
        · next absent =>
          obtain rfl := List.mem_singleton.1 member
          exact .leafTemplate inOrder absent
        · exact absurd member List.not_mem_nil
    | group name path children =>
      rw [ownNotices_group] at member
      split at member
      · next absent =>
        obtain rfl := List.mem_singleton.1 member
        exact .groupTemplate _ rfl absent
      · exact absurd member List.not_mem_nil
  · intro fails
    cases fails with
    | invalidLink invalid =>
      simp [ownNotices_leaf, MenuEntry.linkFault?_some, invalid, MenuEntry.LinkFault.notice]
    | missingLink noDivider =>
      simp [ownNotices_leaf, MenuEntry.linkFault?_none, noDivider, MenuEntry.LinkFault.notice]
    | leafTemplate inOrder absent => simp [ownNotices_leaf, inOrder, absent]
    | groupTemplate depth isDepth absent => simp [ownNotices_group, ← isDepth, absent]

end PlacedEntry

theorem accounts_renderMenu (menus : Table) (menu : List MenuEntry) :
    Accounts (PlacedEntry.Fails menus) (MenuEntry.walkFrom [] 0 menu)
      (renderMenu menus menu).notices := by
  have notices : (renderMenu menus menu).notices =
      (MenuEntry.walkFrom [] 0 menu).flatMap (PlacedEntry.ownNotices menus) :=
    MenuEntry.notices_renderEach menus List.length_nil 0 menu
  rw [notices]
  exact accounts_flatMap (PlacedEntry.length_ownNotices_le menus)
    (fun _ _ => PlacedEntry.mem_ownNotices_iff) _

/-- Where the menu has no templates, the notice about a group comes after those about its
children. -/
example :
    (renderMenu ⟨.exact, .empty, .empty⟩
        [.group "Guides".toList none [.leaf "Start".toList none, .leaf "--".toList none]]).notices =
      [.missingLink "Start".toList, .unknownMenuTemplate "divider".toList,
        .unknownMenuTemplate "top-dropdown".toList] := by
  decide

/-! ## A whole page -/

/-- The notices of a page are those of its template, of its source and of its menu, in this order,
and each of the three accounts for its content errors: rejected blocks, headings that resolve to
nothing and entries that cannot be written. A rejected block or an unresolved heading shows the
fragment of its notice in its place. -/
theorem Renderer.render_accounts (renderer : Renderer) (template source : Text) (theme : Theme)
    (given : Option Dictionary) :
    let harvested := harvest template
    let tables := renderer.defaults.tables.declareAll harvested.declarations
    let converted := renderer.convert (normalizeLinks renderer.links source)
    let outcome := carryOutCommands tables converted
    ∃ fromTemplate fromSource fromMenu,
      (renderer.render template source theme given).notices =
          fromTemplate ++ fromSource ++ fromMenu ∧
        Accounts DeclarationBlock.Rejected (Text.items DeclarationBlock.block? template)
          fromTemplate ∧
        Accounts (Command.Unresolved tables) (Text.items Command.command? converted) fromSource ∧
        Accounts (PlacedEntry.Fails tables.menus) (MenuEntry.walkFrom [] 0 theme.menu) fromMenu ∧
        ShowsNotices DeclarationBlock.block? DeclarationBlock.Rejected template
          harvested.template ∧
        ShowsNotices Command.command? (Command.Unresolved tables) converted outcome.html := by
  intro harvested tables converted outcome
  exact ⟨harvested.notices, outcome.notices, (renderMenu tables.menus theme.menu).notices, rfl,
    accounts_harvest template, accounts_carryOutCommands tables converted,
    accounts_renderMenu tables.menus theme.menu, showsNotices_harvest template,
    showsNotices_carryOutCommands tables converted⟩

end Folio
