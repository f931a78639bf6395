import Folio.Proofs.Markup
import Folio.Proofs.MenuFault
import Folio.Proofs.Text.Scan
import Mathlib.Data.List.Forall2

/-!
# Names and links of a menu cannot become markup

Names and links go requoted into the templates of a menu, but the items of a group go into its
template as finished markup, level upon level. So two menus of one shape are written with the same
characters of markup, whatever their names and links are.

A link that is refused does not even reach a template. A menu is one frame for all links that
would be refused, in which each of them stands quoted inside a notice.
-/

namespace Folio

/-! ## Markup of one shape -/

namespace Noticed

/-- Markup that differs at most in what stands between its characters of markup, with as many
notices. -/
structure SameMarkup (first second : Noticed) : Prop where
  html : markup first.html = markup second.html
  notices : first.notices.length = second.notices.length

theorem SameMarkup.refl (noticed : Noticed) : noticed.SameMarkup noticed :=
  ⟨rfl, rfl⟩

/-- Whatever a notice says, its fragment brings the markup of its box. -/
theorem markup_fragment_congr (first second : Notice) :
    markup first.fragment = markup second.fragment := by
  unfold Notice.fragment
  rw [markup_append, markup_append, Entity.markup_quote]
  rw [markup_append, markup_append, Entity.markup_quote]

theorem sameMarkup_ofNotice (first second : Notice) :
    (ofNotice first).SameMarkup (ofNotice second) :=
  ⟨markup_fragment_congr first second, rfl⟩

theorem markup_joinWith_congr {first second : List Noticed}
    (same : List.Forall₂ SameMarkup first second) :
    markup (Text.joinWith ['\n'] (first.map html)) =
      markup (Text.joinWith ['\n'] (second.map html)) := by
  induction same with
  | nil => rfl
  | cons head tail inductionHypothesis =>
    -- A line break stands after every part but the last one.
    cases tail with
    | nil => exact head.html
    | cons =>
      simp only [List.map_cons, Text.joinWith, markup_append] at inductionHypothesis ⊢
      rw [head.html, inductionHypothesis]

theorem length_notices_congr {first second : List Noticed}
    (same : List.Forall₂ SameMarkup first second) :
    (first.flatMap notices).length = (second.flatMap notices).length := by
  induction same with
  | nil => rfl
  | cons head _ inductionHypothesis =>
    rw [List.flatMap_cons, List.flatMap_cons, List.length_append, List.length_append,
      head.notices, inductionHypothesis]

theorem sameMarkup_lines {first second : List Noticed}
    (same : List.Forall₂ SameMarkup first second) : (lines first).SameMarkup (lines second) :=
  ⟨markup_joinWith_congr same, length_notices_congr same⟩

end Noticed

namespace MenuEntry

/-! ## Menus of one shape -/

/-- What a leaf is written as. -/
inductive LeafKind where
  | divider
  | item
  /-- A notice, for a link that is at fault. -/
  | refused
deriving DecidableEq

/-- What a leaf of a name and a path is written as. -/
def leafKind (name : Text) (path : Option Text) : LeafKind :=
  if (linkFault? name path).isSome then .refused
  else if isDividerName name then .divider
  else .item

/-- Two entries of one shape: leaves of one kind, or groups of as many children that have one shape
in turn. -/
inductive SameShape : MenuEntry → MenuEntry → Prop
  | leaf {name otherName : Text} {path otherPath : Option Text}
      (sameKind : leafKind name path = leafKind otherName otherPath) :
      SameShape (.leaf name path) (.leaf otherName otherPath)
  | group {name otherName : Text} {path otherPath : Option Text}
      {children others : List MenuEntry} (sameShape : List.Forall₂ SameShape children others) :
      SameShape (.group name path children) (.group otherName otherPath others)

section SameMarkup

variable (menus : Table)

/-- A template takes its markup from its own body and from the items that are filled in. -/
theorem sameMarkup_fillTemplate (template : Text) {first second : List (Text × Text)}
    (sameItems : markup (((Dictionary.ofList first).find? "ITEMS".toList).getD []) =
      markup (((Dictionary.ofList second).find? "ITEMS".toList).getD [])) :
    (fillTemplate menus template first).SameMarkup (fillTemplate menus template second) := by
  rw [fillTemplate, fillTemplate]
  cases menus.find? template with
  | none => exact .refl _
  | some body =>
    refine ⟨Placeholder.markup_fill_congr ?_ body, rfl⟩
    intro name isItems
    obtain rfl := List.mem_singleton.1 isItems
    exact sameItems

/-- The values of a leaf hold no items. -/
theorem find?_items_leaf (name : Text) (path : Option Text) :
    (Dictionary.ofList (("NAME".toList, name) ::
      (path.map ("LINK".toList, ·)).toList)).find? "ITEMS".toList = none := by
  cases path <;> rfl

theorem leafTemplate_of_leafKind {name : Text} {path : Option Text}
    (noFault : linkFault? name path = none) :
    leafTemplate name =
      if leafKind name path = .divider then "divider".toList else "item".toList := by
  by_cases isDivider : isDividerName name = true <;>
    simp [leafTemplate, leafKind, noFault, isDivider]

theorem leafKind_eq_refused_iff {name : Text} {path : Option Text} :
    leafKind name path = .refused ↔ (linkFault? name path).isSome := by
  rw [leafKind]
  split
  · simp [*]
  · split <;> simp [*]

theorem sameMarkup_renderLeaf {name otherName : Text} {path otherPath : Option Text}
    (sameKind : leafKind name path = leafKind otherName otherPath) :
    (renderLeaf menus name path).SameMarkup (renderLeaf menus otherName otherPath) := by
  have sameFault : (linkFault? name path).isSome = (linkFault? otherName otherPath).isSome := by
    rw [Bool.eq_iff_iff, ← leafKind_eq_refused_iff, sameKind, leafKind_eq_refused_iff]
  rw [renderLeaf_eq, renderLeaf_eq]
  cases fault : linkFault? name path with
  | some one =>
    obtain ⟨other, otherFault⟩ : ∃ other, linkFault? otherName otherPath = some other := by
      rw [fault] at sameFault
      exact Option.isSome_iff_exists.1 sameFault.symm
    rw [otherFault]
    exact Noticed.sameMarkup_ofNotice _ _
  | none =>
    have otherFault : linkFault? otherName otherPath = none := by simpa [fault] using sameFault
    rw [otherFault, leafTemplate_of_leafKind fault, leafTemplate_of_leafKind otherFault, sameKind]
    apply sameMarkup_fillTemplate
    rw [find?_items_leaf, find?_items_leaf]

theorem sameMarkup_renderGroup (depth : Nat) (name otherName : Text) {children others : Noticed}
    (same : children.SameMarkup others) :
    (renderGroup menus depth name children).SameMarkup
      (renderGroup menus depth otherName others) := by
  have sameGroup :
      (fillTemplate menus (dropdownTemplate depth)
        [("NAME".toList, name), ("ITEMS".toList, children.html)]).SameMarkup
      (fillTemplate menus (dropdownTemplate depth)
        [("NAME".toList, otherName), ("ITEMS".toList, others.html)]) :=
    sameMarkup_fillTemplate menus (dropdownTemplate depth) same.html
  simp only [renderGroup]
  refine ⟨sameGroup.html, ?_⟩
  rw [List.length_append, List.length_append, same.notices, sameGroup.notices]

mutual

/-- Entries of one shape are written with the same markup, at every depth. -/
theorem sameMarkup_render (depth : Nat) {entry other : MenuEntry} (same : SameShape entry other) :
    (entry.render menus depth).SameMarkup (other.render menus depth) := by
  cases entry with
  | leaf name path =>
    cases same with
    | leaf sameKind => exact sameMarkup_renderLeaf menus sameKind
  | group name path children =>
    cases same with
    | @group _ otherName _ _ _ others sameShape =>
      exact sameMarkup_renderGroup menus depth name otherName
        (Noticed.sameMarkup_lines (sameMarkup_renderEach (depth + 1) sameShape))

theorem sameMarkup_renderEach (depth : Nat) {entries others : List MenuEntry}
    (same : List.Forall₂ SameShape entries others) :
    List.Forall₂ Noticed.SameMarkup (renderEach menus depth entries)
      (renderEach menus depth others) := by
  cases entries with
  | nil =>
    cases same
    exact .nil
  | cons entry rest =>
    cases same with
    | cons head tail =>
      exact .cons (sameMarkup_render depth head) (sameMarkup_renderEach depth tail)

end

end SameMarkup

/-! ## Refused links -/

/-- A path that is kept if it may be linked to, and changed if not. -/
def changeRefused (change : Text → Text) (path : Text) : Text :=
  if isValidLink path then path else change path

mutual

/-- An entry with every path changed that may not be linked to. -/
def mapRefused (change : Text → Text) : MenuEntry → MenuEntry
  | .leaf name path => .leaf name (path.map (changeRefused change))
  | .group name path children =>
    .group name (path.map (changeRefused change)) (mapRefusedEach change children)

/-- Entries with every path changed that may not be linked to. -/
def mapRefusedEach (change : Text → Text) : List MenuEntry → List MenuEntry
  | [] => []
  | entry :: rest => entry.mapRefused change :: mapRefusedEach change rest

end

mutual

theorem mapRefused_id (entry : MenuEntry) : entry.mapRefused id = entry := by
  have same (path : Option Text) : path.map (changeRefused id) = path := by
    cases path <;> simp [changeRefused]
  cases entry with
  | leaf name path => rw [mapRefused, same]
  | group name path children => rw [mapRefused, same, mapRefusedEach_id children]

theorem mapRefusedEach_id (entries : List MenuEntry) : mapRefusedEach id entries = entries := by
  cases entries with
  | nil => rfl
  | cons entry rest => rw [mapRefusedEach, mapRefused_id entry, mapRefusedEach_id rest]

end

/-- Markup that depends on a change of the refused links, but only by their notices: it has a frame
that does not depend on the change, with places for refused links. -/
def Framed (write : (Text → Text) → Text) : Prop :=
  ∃ frame : List (Piece Text), (∀ path ∈ Piece.items frame, isValidLink path = false) ∧
    ∀ change : Text → Text,
      (∀ path, isValidLink path = false → isValidLink (change path) = false) →
      write change =
        frame.flatMap (Piece.expand fun path => (Notice.invalidLink (change path)).fragment)

namespace Framed

variable {write others : (Text → Text) → Text}

theorem const (text : Text) : Framed fun _ => text := by
  refine ⟨text.map Piece.plain, ?_, ?_⟩
  · rw [Piece.items_map_plain]
    exact List.forall_mem_nil _
  · intro change _
    exact (Piece.flatMap_expand_map_plain _ text).symm

/-- The notice for a refused link is one place of a frame. -/
theorem refused {path : Text} (isRefused : isValidLink path = false) :
    Framed fun change => (Notice.invalidLink (change path)).fragment := by
  refine ⟨[.item path], ?_, ?_⟩
  · exact List.forall_mem_singleton.2 isRefused
  · intro change _
    exact (List.append_nil _).symm

theorem append (framed : Framed write) (otherFramed : Framed others) :
    Framed fun change => write change ++ others change := by
  obtain ⟨frame, areRefused, isWritten⟩ := framed
  obtain ⟨otherFrame, otherRefused, otherWritten⟩ := otherFramed
  refine ⟨frame ++ otherFrame, ?_, ?_⟩
  · rw [Piece.items_append]
    exact List.forall_mem_append.2 ⟨areRefused, otherRefused⟩
  · intro change staysRefused
    simp only [isWritten change staysRefused, otherWritten change staysRefused,
      List.flatMap_append]

/-- A template with framed items around its other values is one frame. -/
theorem fill (framed : Framed write) (name body : Text) :
    Framed fun change => Placeholder.fill
      (.ofList [("NAME".toList, name), ("ITEMS".toList, write change)]) ["ITEMS".toList] body := by
  have framedValue (placeholder : Text) : Framed fun change => Placeholder.value
      (.ofList [("NAME".toList, name), ("ITEMS".toList, write change)]) ["ITEMS".toList]
      placeholder := by
    by_cases isItems : placeholder = "ITEMS".toList
    · subst isItems
      exact framed
    · -- Every other value is the same for all items.
      have sameValue (items : Text) :
          (Dictionary.ofList [("NAME".toList, name), ("ITEMS".toList, items)]).find? placeholder =
            (Dictionary.ofList [("NAME".toList, name)]).find? placeholder := by
        exact (Dictionary.find?_insert _ _ items placeholder).trans (if_neg isItems)
      simp only [Placeholder.value, sameValue]
      exact const _
  unfold Placeholder.fill Text.substitute
  induction Text.pieces Placeholder.placeholder? body with
  | nil => exact const []
  | cons piece pieces inductionHypothesis =>
    cases piece with
    | plain c => exact (const [c]).append inductionHypothesis
    | item placeholder => exact (framedValue placeholder).append inductionHypothesis

end Framed

section Framed

variable (menus : Table)

/-- A leaf is written without its path, but for the notice, if its path is refused. -/
theorem framed_renderLeaf (name : Text) (path : Option Text) :
    Framed fun change => (renderLeaf menus name (path.map (changeRefused change))).html := by
  cases path with
  | none => exact .const (renderLeaf menus name none).html
  | some path =>
    cases valid : isValidLink path with
    | true =>
      simp only [Option.map_some, changeRefused, valid, if_true]
      exact .const _
    | false =>
      obtain ⟨frame, areRefused, isWritten⟩ := Framed.refused valid
      refine ⟨frame, areRefused, ?_⟩
      intro change staysRefused
      rw [← isWritten change staysRefused]
      simp [renderLeaf, leafValues, changeRefused, valid, staysRefused path valid,
        Noticed.ofNotice]

theorem framed_renderGroup (depth : Nat) (name : Text) {write : (Text → Text) → Noticed}
    (framed : Framed fun change => (write change).html) :
    Framed fun change => (renderGroup menus depth name (write change)).html := by
  simp only [renderGroup, fillTemplate]
  cases menus.find? (dropdownTemplate depth) with
  | none => exact .const _
  | some body => exact framed.fill name body

mutual

/-- An entry is one frame for the links that are refused in it, at every depth. -/
theorem framed_render (depth : Nat) (entry : MenuEntry) :
    Framed fun change => ((entry.mapRefused change).render menus depth).html := by
  cases entry with
  | leaf name path => exact framed_renderLeaf menus name path
  | group name path children =>
    exact framed_renderGroup menus depth name (framed_lines (depth + 1) children)

theorem framed_lines (depth : Nat) (entries : List MenuEntry) :
    Framed fun change =>
      (Noticed.lines (renderEach menus depth (mapRefusedEach change entries))).html :=
  match entries with
  | [] => .const []
  | [entry] => framed_render depth entry
  | entry :: next :: rest =>
    ((framed_render depth entry).append (.const ['\n'])).append (framed_lines depth (next :: rest))

end

end Framed

end MenuEntry

/-- Names and links of a menu cannot bring markup into a page. Menus of one shape are written with
the same characters of markup in the same order and with as many notices. A link that is refused
stands nowhere but quoted in its notice: a menu is one frame around such notices, and the frame
stays as it is when the refused links are changed for others. -/
theorem renderMenu_markup_independent (menus : Table) :
    (∀ first second, List.Forall₂ MenuEntry.SameShape first second →
      markup (renderMenu menus first).html = markup (renderMenu menus second).html ∧
      (renderMenu menus first).notices.length = (renderMenu menus second).notices.length) ∧
    ∀ menu, MenuEntry.mapRefusedEach id menu = menu ∧
      MenuEntry.Framed fun change =>
        (renderMenu menus (MenuEntry.mapRefusedEach change menu)).html := by
  refine ⟨?_, fun menu => ⟨MenuEntry.mapRefusedEach_id menu, MenuEntry.framed_lines menus 0 menu⟩⟩
  intro first second sameShape
  have same : (renderMenu menus first).SameMarkup (renderMenu menus second) :=
    Noticed.sameMarkup_lines (MenuEntry.sameMarkup_renderEach menus 0 sameShape)
  exact ⟨same.html, same.notices⟩

/-- Names, paths and refused links that are full of markup leave the tags of a menu as they
are. -/
theorem renderMenu_markup_independent_of_hostile_entries :
    let menus : Table := Defaults.builtin.tables.menus
    let plain : List MenuEntry :=
      [.group "Docs".toList none
        [.leaf "Start".toList (some "/start".toList), .leaf "-".toList none,
         .leaf "API".toList (some "api".toList)]]
    let hostile : List MenuEntry :=
      [.group "'><b>@ITEMS@".toList (some "\"".toList)
        [.leaf "<script>".toList (some "/'><i>".toList), .leaf "---".toList (some "/\"".toList),
         .leaf "@LINK@".toList none]]
    List.Forall₂ MenuEntry.SameShape plain hostile ∧
      markup (renderMenu menus plain).html = markup (renderMenu menus hostile).html ∧
      (renderMenu menus plain).notices.length = (renderMenu menus hostile).notices.length ∧
      MenuEntry.Framed fun change =>
        (renderMenu menus (MenuEntry.mapRefusedEach change plain)).html := by
  intro menus plain hostile
  have sameShape : List.Forall₂ MenuEntry.SameShape plain hostile :=
    .cons (.group (.cons (.leaf (by decide)) (.cons (.leaf (by decide))
      (.cons (.leaf (by decide)) .nil)))) .nil
  obtain ⟨sameMarkup, sameLength⟩ :=
    (renderMenu_markup_independent menus).1 plain hostile sameShape
  exact ⟨sameShape, sameMarkup, sameLength, ((renderMenu_markup_independent menus).2 plain).2⟩

end Folio
