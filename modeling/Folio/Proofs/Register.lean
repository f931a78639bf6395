import Folio.Proofs.Text.Scan
import Folio.Region
import Mathlib.Data.List.Induction

/-!
# Registers by name

The registers of a page are a function of its asides: after the main region they stand in the
order in which their names are first used, and each holds the contents of all asides of its name.
-/

namespace Folio

section FirstUses

variable {α : Type} [BEq α] [LawfulBEq α]

theorem eraseDups_append_of_mem {items : List α} {item : α} (member : item ∈ items) :
    (items ++ [item]).eraseDups = items.eraseDups := by
  simp [List.eraseDups_append, List.removeAll, member]

theorem eraseDups_append_of_not_mem {items : List α} {item : α} (isNew : item ∉ items) :
    (items ++ [item]).eraseDups = items.eraseDups ++ [item] := by
  simp [List.eraseDups_append, List.removeAll, isNew, List.eraseDups_cons]

theorem nodup_eraseDups (items : List α) : items.eraseDups.Nodup := by
  induction items using List.reverseRecOn with
  | nil => simp
  | append_singleton items item inductionHypothesis =>
    by_cases member : item ∈ items
    · rw [eraseDups_append_of_mem member]
      exact inductionHypothesis
    · rw [eraseDups_append_of_not_mem member, List.nodup_append]
      refine ⟨inductionHypothesis, by simp, ?_⟩
      rintro other isOther last isLast rfl
      rw [List.mem_singleton.1 isLast, List.mem_eraseDups] at isOther
      exact member isOther

end FirstUses

namespace AsideSpan

/-- The contents of the asides of a region, one after another. -/
def contentsOf (name : Text) (spans : List AsideSpan) : Text :=
  (spans.filter fun span => span.name = name).flatMap content

theorem contentsOf_append (name : Text) (first second : List AsideSpan) :
    contentsOf name (first ++ second) = contentsOf name first ++ contentsOf name second := by
  simp [contentsOf]

/-- The names of the regions of asides in the order of their first use, the main region apart. -/
def regions (spans : List AsideSpan) : List Text :=
  ((spans.filter fun span => span.name ≠ mainRegion).map name).eraseDups

theorem mem_regions {name : Text} {spans : List AsideSpan} :
    name ∈ regions spans ↔ name ≠ mainRegion ∧ ∃ span ∈ spans, span.name = name := by
  simp only [regions, List.mem_eraseDups, List.mem_map, List.mem_filter, decide_eq_true_eq]
  constructor
  · rintro ⟨span, ⟨member, notMain⟩, rfl⟩
    exact ⟨notMain, span, member, rfl⟩
  · rintro ⟨notMain, span, member, rfl⟩
    exact ⟨span, ⟨member, notMain⟩, rfl⟩

theorem nodup_regions (spans : List AsideSpan) : (regions spans).Nodup :=
  nodup_eraseDups _

/-- An aside of the main region, or of a name that was used before, brings no new region. -/
theorem regions_append_of_mem {spans : List AsideSpan} {span : AsideSpan}
    (known : span.name = mainRegion ∨ span.name ∈ regions spans) :
    regions (spans ++ [span]) = regions spans := by
  by_cases isMain : span.name = mainRegion
  · simp [regions, isMain]
  · have used := known.resolve_left isMain
    rw [regions, List.mem_eraseDups] at used
    simp only [regions, List.filter_append, List.map_append, List.filter_cons, isMain, ne_eq,
      not_false_eq_true, decide_true, if_true, List.filter_nil, List.map_cons, List.map_nil]
    simpa using eraseDups_append_of_mem used

/-- An aside of a new name brings its region, which comes last. -/
theorem regions_append_of_not_mem {spans : List AsideSpan} {span : AsideSpan}
    (notMain : span.name ≠ mainRegion) (isNew : span.name ∉ regions spans) :
    regions (spans ++ [span]) = regions spans ++ [span.name] := by
  rw [regions, List.mem_eraseDups] at isNew
  simp only [regions, List.filter_append, List.map_append, List.filter_cons, notMain, ne_eq,
    not_false_eq_true, decide_true, if_true, List.filter_nil, List.map_cons, List.map_nil]
  simpa using eraseDups_append_of_not_mem isNew

end AsideSpan

namespace Registers

open AsideSpan

theorem modifyEntries_of_not_mem {name : Text} {entries : List (Text × Text)}
    (isNew : name ∉ entries.map Prod.fst) (change : Text → Text) :
    modifyEntries change name entries = entries ++ [(name, change [])] := by
  induction entries with
  | nil => rfl
  | cons entry entries inductionHypothesis =>
    obtain ⟨other, content⟩ := entry
    simp only [List.map_cons, List.mem_cons, not_or] at isNew
    rw [modifyEntries, if_neg (Ne.symm isNew.1), inductionHypothesis isNew.2]
    rfl

/-- Changing a region that is there changes its content alone. -/
theorem modifyEntries_of_mem {name : Text} {names : List Text} (nodup : names.Nodup)
    (member : name ∈ names) (change content : Text → Text) :
    modifyEntries change name (names.map fun other => (other, content other)) =
      names.map fun other =>
        (other, if other = name then change (content other) else content other) := by
  induction names with
  | nil => simp at member
  | cons other names inductionHypothesis =>
    obtain ⟨notLater, nodup⟩ := List.nodup_cons.1 nodup
    simp only [List.map_cons, modifyEntries]
    by_cases same : other = name
    · subst same
      rw [if_pos rfl, if_pos rfl]
      congr 1
      apply List.map_congr_left
      intro later isLater
      have different : later ≠ other := fun same => notLater (same ▸ isLater)
      rw [if_neg different]
    · rw [if_neg same, if_neg same]
      have later : name ∈ names := by simpa [Ne.symm same] using member
      rw [inductionHypothesis nodup later]

/-- The regions of asides with their contents. -/
def collected (spans : List AsideSpan) : List (Text × Text) :=
  (regions spans).map fun name => (name, contentsOf name spans)

/-- Collecting asides gives their regions in order of first use, with all their contents. -/
theorem entries_collect (spans : List AsideSpan) :
    (initial.collect spans).entries = (mainRegion, []) :: collected spans := by
  induction spans using List.reverseRecOn with
  | nil => rfl
  | append_singleton spans span inductionHypothesis =>
    have step : initial.collect (spans ++ [span]) =
        if span.name = mainRegion then initial.collect spans
        else (initial.collect spans).append span.name span.content := by
      simp [collect]
    rw [step, collected]
    by_cases isMain : span.name = mainRegion
    · rw [if_pos isMain, regions_append_of_mem (.inl isMain), inductionHypothesis, collected]
      congr 1
      apply List.map_congr_left
      intro name member
      have different : span.name ≠ name :=
        fun same => (mem_regions.1 member).1 (same.symm.trans isMain)
      simp [contentsOf, different]
    · rw [if_neg isMain, append, modify, inductionHypothesis]
      simp only [modifyEntries, if_neg (Ne.symm isMain)]
      congr 1
      by_cases member : span.name ∈ regions spans
      · rw [regions_append_of_mem (.inr member), collected,
          modifyEntries_of_mem (nodup_regions spans) member]
        apply List.map_congr_left
        intro name _
        by_cases same : name = span.name
        · simp [contentsOf, same]
        · simp [contentsOf, same, Ne.symm same]
      · have absent : span.name ∉ (collected spans).map Prod.fst := by
          simpa [collected, Function.comp_def] using member
        rw [regions_append_of_not_mem isMain member, List.map_append,
          modifyEntries_of_not_mem absent, collected]
        congr 1
        · apply List.map_congr_left
          intro name isOther
          have different : span.name ≠ name := fun same => member (same ▸ isOther)
          simp [contentsOf, different]
        · have unused : contentsOf span.name spans = [] := by
            simp only [contentsOf, List.flatMap_eq_nil_iff, List.mem_filter, decide_eq_true_eq]
            rintro other ⟨isOther, same⟩
            exact absurd (mem_regions.2 ⟨isMain, other, isOther, same⟩) member
          rw [List.map_singleton, contentsOf_append, unused]
          simp [contentsOf]

end Registers

/-- The registers of a page: the main region with what the asides leave of the page, then the
regions of the asides. -/
theorem entries_routeRegions (html : Text) :
    (routeRegions html).entries =
      (mainRegion, Text.substitute AsideSpan.span? AsideSpan.replacement html) ::
        Registers.collected (Text.items AsideSpan.span? html) := by
  rw [routeRegions, Registers.set, Registers.modify, Registers.entries_collect]
  simp [Registers.modifyEntries]

theorem names_routeRegions (html : Text) :
    (routeRegions html).names =
      mainRegion :: AsideSpan.regions (Text.items AsideSpan.span? html) := by
  simp [Registers.names, entries_routeRegions, Registers.collected, Function.comp_def]

theorem find?_routeRegions_main (html : Text) :
    (routeRegions html).find? mainRegion =
      some (Text.substitute AsideSpan.span? AsideSpan.replacement html) := by
  simp [Registers.find?, entries_routeRegions]

/-- Every other region holds the contents of its asides. -/
theorem find?_routeRegions {html name : Text}
    (member : name ∈ AsideSpan.regions (Text.items AsideSpan.span? html)) :
    (routeRegions html).find? name =
      some (AsideSpan.contentsOf name (Text.items AsideSpan.span? html)) := by
  rw [Registers.find?, entries_routeRegions, Dictionary.lookup_cons_ite,
    if_neg (AsideSpan.mem_regions.1 member).1, Registers.collected]
  generalize AsideSpan.regions (Text.items AsideSpan.span? html) = names at member
  induction names with
  | nil => simp at member
  | cons other names inductionHypothesis =>
    rw [List.map_cons, Dictionary.lookup_cons_ite]
    by_cases same : name = other
    · rw [if_pos same, same]
    · rw [if_neg same]
      exact inductionHypothesis ((List.mem_cons.1 member).resolve_left same)

/-- There is no register for a name that no aside has. -/
theorem find?_routeRegions_eq_none {html name : Text} (notMain : name ≠ mainRegion)
    (unused : name ∉ AsideSpan.regions (Text.items AsideSpan.span? html)) :
    (routeRegions html).find? name = none := by
  rw [Registers.find?, List.lookup_eq_none_iff]
  intro entry member
  have isName : entry.1 ∈ (routeRegions html).names := List.mem_map_of_mem member
  rw [names_routeRegions, List.mem_cons] at isName
  have different : name ≠ entry.1 := by
    rintro rfl
    exact isName.elim notMain unused
  simpa using different

/-- Without asides there is the main region alone, and it holds the document. -/
theorem routeRegions_of_itemFree {document : Text}
    (free : Text.ItemFree AsideSpan.span? document) :
    routeRegions document = ⟨[(mainRegion, document)]⟩ := by
  have entries := entries_routeRegions document
  rw [Text.substitute_of_itemFree free, Text.items_of_itemFree free] at entries
  exact congrArg Registers.mk entries

end Folio
