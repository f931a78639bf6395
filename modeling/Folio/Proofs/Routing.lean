import Folio.Proofs.Register
import Folio.Proofs.Region
import Mathlib.Tactic.MkIffOfInductiveProp

/-!
# Routing conserves a page

A page of asides with text between them is taken apart without a loss: what stands outside the
asides stays in the main region in its place, and the content of each aside goes to the end of the
register of its name. Contents may hold begin marks, and texts between asides end marks.
-/

namespace Folio

open Text

/-- An aside as it is written in a page, and the text up to the next one. -/
structure WrittenAside where
  name : Text
  content : Text
  gap : Text

namespace WrittenAside

/-- An aside between its marks. -/
def source (aside : WrittenAside) : Text :=
  asideBegin aside.name ++ aside.content ++ asideEnd

/-- A page of asides as it is written: a text, and then the asides with a text after each. -/
def page (lead : Text) (asides : List WrittenAside) : Text :=
  lead ++ asides.flatMap fun aside => aside.source ++ aside.gap

/-- The name can stand in a begin mark, the content ends with the end mark after it, and no other
aside begins before the next one. -/
@[mk_iff]
structure Fits (aside : WrittenAside) : Prop where
  named : aside.name ≠ []
  nameNoBlank : ∀ c ∈ aside.name, Unicode.isBlank c = false
  contentNoEnd : hasPart asideEnd aside.content = false
  gapNoBegin : hasPart "<!-- BEGIN-ASIDE".toList aside.gap = false

instance (aside : WrittenAside) : Decidable aside.Fits :=
  decidable_of_iff' _ (fits_iff aside)

/-- The aside that is read. -/
def span (aside : WrittenAside) : AsideSpan := ⟨aside.name, aside.content⟩

/-- What stays in the main region for an aside. -/
def shown (aside : WrittenAside) : Text :=
  if aside.name = mainRegion then aside.content else "<!-- aside -->".toList

/-- A text in which no aside begins holds no lead of a begin mark. -/
theorem beginLead_absent {text : Text} (noBegin : hasPart "<!-- BEGIN-ASIDE".toList text = false) :
    hasPart AsideSpan.beginLead text = false := by
  rw [← Bool.not_eq_true, hasPart_iff]
  rintro ⟨before, after, rfl⟩
  have lead : AsideSpan.beginLead = "<!-- BEGIN-ASIDE".toList ++ [' '] := by
    unfold AsideSpan.beginLead
    simp
  have occurs := hasPart_append "<!-- BEGIN-ASIDE".toList before ([' '] ++ after)
  rw [lead, List.append_assoc, List.append_assoc, ← List.append_assoc before, occurs] at noBegin
  exact Bool.false_ne_true noBegin.symm

theorem lead_of_span? {text : Text} {value : AsideSpan × Text}
    (found : AsideSpan.span? text = some value) :
    ∃ rest, text = AsideSpan.beginLead ++ rest := by
  obtain ⟨span, after⟩ := value
  obtain ⟨mark, rfl⟩ := AsideSpan.exists_append_of_span? found
  exact ⟨mark ++ asideEnd ++ after, by simp⟩

/-- Each aside of a page is read as one item, and the text around it is plain. -/
theorem pieces_page {lead : Text} {asides : List WrittenAside}
    (leadNoBegin : hasPart "<!-- BEGIN-ASIDE".toList lead = false)
    (fits : ∀ aside ∈ asides, aside.Fits) :
    pieces AsideSpan.span? (page lead asides) =
      lead.map Piece.plain ++
        asides.flatMap fun aside => .item aside.span :: aside.gap.map Piece.plain := by
  have once : '<' ∉ "!-- BEGIN-ASIDE ".toList := by decide
  have absent {text : Text} (noBegin : hasPart "<!-- BEGIN-ASIDE".toList text = false) :
      hasPart ('<' :: "!-- BEGIN-ASIDE ".toList) text = false := by
    rw [← AsideSpan.beginLead_eq]
    exact beginLead_absent noBegin
  refine pieces_row_of_absent once ?_ (absent leadNoBegin) ?_ ?_
  · intro text value found
    rw [← AsideSpan.beginLead_eq]
    exact lead_of_span? found
  · intro aside isAside
    obtain ⟨named, noBlank, noEnd, -⟩ := fits aside isAside
    exact AsideSpan.readsAs_span named noBlank noEnd
  · intro aside isAside
    exact absent (fits aside isAside).gapNoBegin

theorem items_page {lead : Text} {asides : List WrittenAside}
    (leadNoBegin : hasPart "<!-- BEGIN-ASIDE".toList lead = false)
    (fits : ∀ aside ∈ asides, aside.Fits) :
    items AsideSpan.span? (page lead asides) = asides.map span := by
  rw [items, pieces_page leadNoBegin fits, ← Piece.items, Piece.items_append,
    Piece.items_map_plain, List.nil_append, Piece.items_row]

/-- The regions of a page are the names of its asides, the main region apart. -/
theorem regions_spans (asides : List WrittenAside) :
    AsideSpan.regions (asides.map span) =
      ((asides.map name).filter fun name => name ≠ mainRegion).eraseDups := by
  rw [AsideSpan.regions, List.filter_map, List.map_map, List.filter_map]
  rfl

theorem contentsOf_spans (name : Text) (asides : List WrittenAside) :
    AsideSpan.contentsOf name (asides.map span) =
      (asides.filter fun aside => aside.name = name).flatMap content := by
  rw [AsideSpan.contentsOf, List.filter_map, List.flatMap_map]
  rfl

/-- The main region is the page with a comment in the place of each aside, or with its content if
the aside is one of the main region. Every other name that is used has a register with the contents
of all asides of that name, in order, and no other name has one. The registers stand in the order
of first use. -/
theorem routeRegions_page {lead : Text} {asides : List WrittenAside}
    (leadNoBegin : hasPart "<!-- BEGIN-ASIDE".toList lead = false)
    (fits : ∀ aside ∈ asides, aside.Fits) :
    let registers := routeRegions (page lead asides)
    registers.find? mainRegion =
        some (lead ++ asides.flatMap fun aside => aside.shown ++ aside.gap) ∧
      (∀ region, region ≠ mainRegion →
        registers.find? region =
          if region ∈ asides.map name then
            some ((asides.filter fun aside => aside.name = region).flatMap content)
          else none) ∧
      registers.names =
        mainRegion :: ((asides.map name).filter fun name => name ≠ mainRegion).eraseDups := by
  intro registers
  have spans := items_page leadNoBegin fits
  refine ⟨?_, ?_, ?_⟩
  · rw [find?_routeRegions_main, substitute, pieces_page leadNoBegin fits, List.flatMap_append,
      Piece.flatMap_expand_map_plain, Piece.expand_row]
    rfl
  · intro region notMain
    have isRegion : region ∈ AsideSpan.regions (items AsideSpan.span? (page lead asides)) ↔
        region ∈ asides.map name := by
      rw [spans, regions_spans, List.mem_eraseDups, List.mem_filter]
      simp [notMain]
    by_cases used : region ∈ asides.map name
    · rw [if_pos used, find?_routeRegions (isRegion.2 used), spans, contentsOf_spans]
    · rw [if_neg used, find?_routeRegions_eq_none notMain fun member => used (isRegion.1 member)]
  · rw [names_routeRegions, spans, regions_spans]

/-- A content that holds begin marks and a text with an end mark, an aside of the main region, and a
name that is used twice. -/
theorem routeRegions_page_with_stray_marks :
    let asides : List WrittenAside :=
      [⟨"note".toList, "<!-- BEGIN-ASIDE card -->one".toList,
          "<!-- END-ASIDE --><!-- BEGIN-".toList⟩,
        ⟨"main".toList, "kept".toList, " mid ".toList⟩,
        ⟨"a-->".toList, [], []⟩,
        ⟨"note".toList, "<!-- END-ASIDE".toList, " end".toList⟩]
    let registers := routeRegions (page "Start ".toList asides)
    (∀ aside ∈ asides, aside.Fits) ∧
      registers.find? "main".toList =
        some ("Start <!-- aside --><!-- END-ASIDE --><!-- BEGIN-kept mid <!-- aside -->" ++
          "<!-- aside --> end").toList ∧
      registers.find? "note".toList =
        some "<!-- BEGIN-ASIDE card -->one<!-- END-ASIDE".toList ∧
      registers.find? "card".toList = none ∧
      registers.names = ["main".toList, "note".toList, "a-->".toList] := by
  intro asides registers
  have fits : ∀ aside ∈ asides, aside.Fits := by decide
  have leadNoBegin : hasPart "<!-- BEGIN-ASIDE".toList "Start ".toList = false := by decide
  obtain ⟨main, others, names⟩ := routeRegions_page leadNoBegin fits
  refine ⟨fits, main.trans (by decide), ?_, ?_, names.trans (by decide)⟩
  · exact (others "note".toList (by decide)).trans (by decide)
  · exact (others "card".toList (by decide)).trans (by decide)

end WrittenAside

end Folio
