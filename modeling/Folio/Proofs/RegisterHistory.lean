import Folio.Proofs.Register
import Mathlib.Logic.Function.Basic

/-!
# Registers and their histories

A change adds a content at the end of a region or puts one in the place of what the region held.
What registers come to is known from their history alone: the regions stand in the order in which
they are first mentioned, and each holds what a plain map from names to contents holds after the
same changes. The registers of a page have a history as well, so this goes on for everything that is
done with them later.
-/

namespace Folio.Registers

/-! ## Changes -/

/-- A change of one region. -/
inductive Change where
  | append (name content : Text)
  | set (name content : Text)
deriving DecidableEq, Repr

/-- The region that a change mentions. -/
def Change.name : Change → Text
  | .append name _ => name
  | .set name _ => name

/-- Registers after one change. -/
def change (registers : Registers) : Change → Registers
  | .append name content => registers.append name content
  | .set name content => registers.set name content

/-- Registers after changes, one after another. -/
def run (registers : Registers) (history : List Change) : Registers :=
  history.foldl change registers

/-- The content that a change leaves in its region, of which there may have been none. -/
def Change.contentAfter : Change → Option Text → Text
  | .append _ content, none => content
  | .append _ content, some held => held ++ content
  | .set _ content, _ => content

/-- A plain map from names to contents after one change. -/
def Change.onMap (contents : Text → Option Text) (change : Change) : Text → Option Text :=
  Function.update contents change.name (some (change.contentAfter (contents change.name)))

/-- A plain map that starts with an empty main region, after changes. -/
def replay (history : List Change) : Text → Option Text :=
  history.foldl Change.onMap (Function.update (fun _ => none) mainRegion (some []))

/-! ## One change -/

theorem lookup_modifyEntries (change : Text → Text) (name other : Text)
    (entries : List (Text × Text)) :
    (modifyEntries change name entries).lookup other =
      if other = name then some (change ((entries.lookup name).getD []))
      else entries.lookup other := by
  induction entries with
  | nil => exact Dictionary.lookup_cons_ite other name (change []) []
  | cons entry entries inductionHypothesis =>
    obtain ⟨first, content⟩ := entry
    rw [modifyEntries, Dictionary.lookup_cons_ite name, Dictionary.lookup_cons_ite other]
    by_cases isFirst : first = name
    · subst isFirst
      rw [if_pos rfl, if_pos rfl, Dictionary.lookup_cons_ite]
      by_cases same : other = first <;> simp [same]
    · rw [if_neg isFirst, if_neg (Ne.symm isFirst), Dictionary.lookup_cons_ite, inductionHypothesis]
      by_cases same : other = name
      · simp [same, Ne.symm isFirst]
      · simp [same]

theorem map_fst_modifyEntries (change : Text → Text) (name : Text)
    (entries : List (Text × Text)) :
    (modifyEntries change name entries).map Prod.fst =
      if name ∈ entries.map Prod.fst then entries.map Prod.fst
      else entries.map Prod.fst ++ [name] := by
  induction entries with
  | nil => rfl
  | cons entry entries inductionHypothesis =>
    obtain ⟨first, content⟩ := entry
    rw [modifyEntries]
    by_cases isFirst : first = name
    · simp [isFirst]
    · rw [if_neg isFirst, List.map_cons, inductionHypothesis]
      by_cases member : name ∈ entries.map Prod.fst
      · simp [member]
      · simp [member, Ne.symm isFirst]

/-- A change does to the contents what it does to a plain map. -/
theorem find?_change (registers : Registers) (change : Change) :
    (registers.change change).find? = change.onMap registers.find? := by
  funext other
  rw [Change.onMap, Function.update_apply]
  cases change with
  | append name content =>
    have joined (held : Option Text) :
        held.getD [] ++ content = (Change.append name content).contentAfter held := by
      cases held <;> rfl
    rw [change, append, modify, find?, lookup_modifyEntries, joined]
    rfl
  | set name content => exact lookup_modifyEntries _ name other registers.entries

/-- A region that is mentioned for the first time comes last. -/
theorem names_change (registers : Registers) (change : Change) :
    (registers.change change).names =
      if change.name ∈ registers.names then registers.names
      else registers.names ++ [change.name] := by
  cases change with
  | append name content => exact map_fst_modifyEntries _ name registers.entries
  | set name content => exact map_fst_modifyEntries _ name registers.entries

/-- A change of a region leaves every other region as it is, in its content and in its place. -/
theorem change_keeps_others (registers : Registers) {change : Change} {other : Text}
    (different : other ≠ change.name) :
    (registers.change change).find? other = registers.find? other ∧
      ∀ place : Nat, (registers.change change).names[place]? = some other ↔
        registers.names[place]? = some other := by
  constructor
  · rw [find?_change, Change.onMap, Function.update_of_ne different]
  · intro place
    rw [names_change]
    split_ifs with mentioned
    · rfl
    · rw [List.getElem?_append]
      split_ifs with inside
      · rfl
      · have behind : registers.names[place]? = none := List.getElem?_eq_none (Nat.not_lt.1 inside)
        simp [behind, List.getElem?_singleton, Ne.symm different]

/-! ## Histories -/

theorem run_append (registers : Registers) (earlier later : List Change) :
    registers.run (earlier ++ later) = (registers.run earlier).run later :=
  List.foldl_append

theorem find?_eq_none_iff_not_mem {registers : Registers} {name : Text} :
    registers.find? name = none ↔ name ∉ registers.names := by
  rw [find?, List.lookup_eq_none_iff, names]
  constructor
  · intro missed member
    obtain ⟨entry, isEntry, rfl⟩ := List.mem_map.1 member
    exact bne_iff_ne.1 (missed entry isEntry) rfl
  · intro absent entry isEntry
    exact bne_iff_ne.2 fun same => absent (same ▸ List.mem_map_of_mem isEntry)

/-- Registers as a history makes them: the main region comes first, each other name stands where it
is first mentioned, and the contents are those of a plain map. -/
structure IsMadeBy (registers : Registers) (history : List Change) : Prop where
  names_eq : registers.names = (mainRegion :: history.map Change.name).eraseDups
  find?_eq : registers.find? = replay history

namespace IsMadeBy

variable {registers : Registers} {history : List Change}

theorem head?_names (madeBy : registers.IsMadeBy history) :
    registers.names.head? = some mainRegion := by
  rw [madeBy.names_eq, List.eraseDups_cons, List.head?_cons]

theorem nodup_names (madeBy : registers.IsMadeBy history) : registers.names.Nodup := by
  rw [madeBy.names_eq]
  exact nodup_eraseDups _

theorem find?_eq_none_iff (madeBy : registers.IsMadeBy history) {name : Text} :
    registers.find? name = none ↔
      name ≠ mainRegion ∧ ∀ change ∈ history, change.name ≠ name := by
  rw [find?_eq_none_iff_not_mem, madeBy.names_eq, List.mem_eraseDups, List.mem_cons, List.mem_map]
  push Not
  rfl

theorem of_initial : initial.IsMadeBy [] := by
  constructor
  · rfl
  · funext name
    rw [replay, List.foldl_nil, Function.update_apply]
    exact Dictionary.lookup_cons_ite name mainRegion [] []

/-- A change of registers goes to the end of their history. -/
theorem of_change (madeBy : registers.IsMadeBy history) (last : Change) :
    (registers.change last).IsMadeBy (history ++ [last]) := by
  constructor
  · rw [names_change, madeBy.names_eq, List.map_append, List.map_singleton, ← List.cons_append]
    split_ifs with mentioned
    · rw [eraseDups_append_of_mem (List.mem_eraseDups.1 mentioned)]
    · rw [eraseDups_append_of_not_mem fun member => mentioned (List.mem_eraseDups.2 member)]
  · rw [find?_change, madeBy.find?_eq, replay, replay, List.foldl_append]
    rfl

theorem of_run (madeBy : registers.IsMadeBy history) (later : List Change) :
    (registers.run later).IsMadeBy (history ++ later) := by
  induction later using List.reverseRecOn with
  | nil => rwa [List.append_nil]
  | append_singleton later last inductionHypothesis =>
    rw [run_append, ← List.append_assoc]
    exact inductionHypothesis.of_change last

end IsMadeBy

/-! ## The history of a page -/

/-- The asides outside the main region are added to their regions in order. -/
def gathering (spans : List AsideSpan) : List Change :=
  (spans.filter fun span => span.name ≠ mainRegion).map fun span => .append span.name span.content

/-- The changes that make the registers of a page: its asides are gathered, and then what they leave
of the page becomes the main region. -/
def routing (html : Text) : List Change :=
  gathering (Text.items AsideSpan.span? html) ++
    [.set mainRegion (Text.substitute AsideSpan.span? AsideSpan.replacement html)]

theorem collect_eq_run (registers : Registers) (spans : List AsideSpan) :
    registers.collect spans = registers.run (gathering spans) := by
  induction spans generalizing registers with
  | nil => rfl
  | cons span spans inductionHypothesis =>
    rw [collect, List.foldl_cons, ← collect, inductionHypothesis]
    by_cases isMain : span.name = mainRegion
    · have gathered : gathering (span :: spans) = gathering spans := by simp [gathering, isMain]
      rw [if_pos isMain, gathered]
    · have gathered : gathering (span :: spans) =
          .append span.name span.content :: gathering spans := by
        simp [gathering, isMain]
      rw [if_neg isMain, gathered]
      rfl

theorem routeRegions_eq_run (html : Text) : routeRegions html = initial.run (routing html) := by
  rw [routeRegions, collect_eq_run, routing, run_append]
  rfl

/-- Where a history of registers may start, with the changes that lie before it: with the empty main
region alone, or with a page. -/
inductive IsStart : Registers → List Change → Prop
  | empty : IsStart initial []
  | page (html : Text) : IsStart (routeRegions html) (routing html)

theorem IsStart.isMadeBy {start : Registers} {earlier : List Change}
    (isStart : IsStart start earlier) : start.IsMadeBy earlier := by
  cases isStart with
  | empty => exact .of_initial
  | page html =>
    rw [routeRegions_eq_run]
    exact IsMadeBy.of_initial.of_run (routing html)

/-- After any changes, from the empty main region on or from a page, the names of the regions start
with the main one, have no duplicates and stand in the order of their first mention. Each region
holds what a plain map holds after the same changes, and only a name that was never mentioned has
none. One more change leaves every region but its own as it is, in its content and in its place. -/
theorem run_of_start {start : Registers} {earlier : List Change} (isStart : IsStart start earlier)
    (later : List Change) :
    let registers := start.run later
    let history := earlier ++ later
    registers.names.head? = some mainRegion ∧ registers.names.Nodup ∧
      registers.names = (mainRegion :: history.map Change.name).eraseDups ∧
      (∀ name, registers.find? name = replay history name) ∧
      (∀ name, registers.find? name = none ↔
        name ≠ mainRegion ∧ ∀ change ∈ history, change.name ≠ name) ∧
      ∀ (change : Change) (other : Text), other ≠ change.name →
        (registers.change change).find? other = registers.find? other ∧
          ∀ place : Nat, (registers.change change).names[place]? = some other ↔
            registers.names[place]? = some other := by
  intro registers history
  have madeBy : registers.IsMadeBy history := isStart.isMadeBy.of_run later
  refine ⟨madeBy.head?_names, madeBy.nodup_names, madeBy.names_eq, ?_, ?_, ?_⟩
  · exact fun name => congrFun madeBy.find?_eq name
  · exact fun name => madeBy.find?_eq_none_iff
  · exact fun change other different => registers.change_keeps_others different

/-- A page with an aside, then changes of the empty name, of the main region and of the aside. -/
theorem run_of_start_of_page :
    let html := "a<!-- BEGIN-ASIDE note -->one<!-- END-ASIDE -->b".toList
    let later : List Change :=
      [.append [] "x".toList, .append mainRegion "c".toList, .set [] "y".toList,
        .append "note".toList "two".toList]
    let registers := (routeRegions html).run later
    IsStart (routeRegions html) (routing html) ∧
      registers.names = ["main".toList, "note".toList, []] ∧
      registers.find? mainRegion = some "a<!-- aside -->bc".toList ∧
      registers.find? "note".toList = some "onetwo".toList ∧
      registers.find? [] = some "y".toList ∧ registers.find? "card".toList = none := by
  intro html later registers
  have isStart := IsStart.page html
  obtain ⟨-, -, names, contents, absent, -⟩ := run_of_start isStart later
  refine ⟨isStart, names.trans (by decide), ?_, ?_, ?_, (absent "card".toList).2 (by decide)⟩
  · exact (contents mainRegion).trans (by decide)
  · exact (contents "note".toList).trans (by decide)
  · exact (contents []).trans (by decide)

end Folio.Registers
