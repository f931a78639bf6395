import Folio.Proofs.Register
import Folio.Proofs.Region

/-!
# Routing leaves no aside behind

For every aside that is moved to a region of its own, a comment stays in the main region. A begin
mark that was left over before an aside could now meet an end mark that was left over after it. But
no begin mark reaches into a comment, and a begin mark that stands whole before an aside would have
been the begin of an aside itself, since an end mark comes after it. So the main region holds no
aside, whatever marks the page holds, and routing it again changes nothing.
-/

namespace Folio

open Text

namespace AsideSpan

theorem span?_proper : Proper span? := by
  intro text after span found
  obtain ⟨mark, split⟩ := exists_append_of_span? found
  refine ⟨beginLead ++ mark ++ asideEnd, ?_, split⟩
  rw [beginLead_eq]
  simp

/-! ## Comments -/

/-- An aside starts like a comment. -/
theorem startsComment_of_span? {text : Text} {value : AsideSpan × Text}
    (found : span? text = some value) : StartsComment text := by
  obtain ⟨mark, rfl⟩ := exists_append_of_span? found
  exact ⟨'B', "EGIN-ASIDE ".toList ++ mark ++ asideEnd ++ value.2, by decide,
    by unfold beginLead; simp⟩

theorem replacement_of_ne {span : AsideSpan} (notMain : span.name ≠ mainRegion) :
    span.replacement = "<!-- aside -->".toList :=
  if_neg notMain

theorem startsComment_replacement {span : AsideSpan} (notMain : span.name ≠ mainRegion)
    (rest : Text) : StartsComment (span.replacement ++ rest) := by
  rw [replacement_of_ne notMain]
  exact ⟨'a', "side -->".toList ++ rest, by decide, by simp⟩

/-- No aside starts in the comment that stands for one. -/
theorem inert_replacement {span : AsideSpan} (notMain : span.name ≠ mainRegion) :
    Inert span? span.replacement := by
  rw [replacement_of_ne notMain]
  exact inert_span? (by decide)

/-! ## Marks that are left over -/

/-- An end mark after a begin mark makes an aside. -/
theorem exists_span?_of_begin? {text name inside : Text} (begins : begin? text = some (name, inside))
    (ends : hasPart asideEnd inside = true) : ∃ value, span? text = some value := by
  obtain ⟨⟨content, after⟩, cut⟩ := Option.isSome_iff_exists.1 ends
  refine ⟨(⟨name, content⟩, after), ?_⟩
  rw [span?_eq_begin?, begins, Option.bind_some]
  exact congrArg (Option.map _) cut

/-- A begin mark that stands whole before an aside is the begin of an aside. -/
theorem begin?_eq_none_of_span? {c : Char} {lead text : Text} {value : AsideSpan × Text}
    (found : span? text = some value) (missed : span? (c :: lead ++ text) = none) :
    begin? (c :: lead) = none := by
  rw [Option.eq_none_iff_forall_ne_some]
  rintro ⟨name, inside⟩ begins
  have whole := begin?_append_comment (startsComment_of_span? found) c lead
  rw [begins, Option.map_some] at whole
  have ends : hasPart asideEnd (inside ++ text) = true := by
    obtain ⟨mark, rfl⟩ := exists_append_of_span? found
    exact hasPart_iff.2 ⟨inside ++ (beginLead ++ mark), value.2, by simp⟩
  obtain ⟨span, isAside⟩ := exists_span?_of_begin? whole ends
  rw [missed] at isAside
  cases isAside

/-- No aside starts where no begin mark stands whole before a comment. -/
theorem span?_eq_none_of_comment {c : Char} {lead comment : Text}
    (isComment : StartsComment comment) (noBegin : begin? (c :: lead) = none) :
    span? (c :: lead ++ comment) = none := by
  rw [span?_eq_begin?, begin?_append_comment isComment, noBegin]
  rfl

/-- What is left of a page without its asides holds no aside. -/
theorem itemFree_substitute_replacement {html : Text}
    (notMain : ∀ span ∈ items span? html, span.name ≠ mainRegion) :
    ItemFree span? (substitute span? replacement html) := by
  induction html using scan_induction span?_proper with
  | nil => trivial
  | plain c text missed inductionHypothesis =>
    have later : ∀ span ∈ items span? text, span.name ≠ mainRegion := by
      rwa [items, pieces_cons_of_none missed] at notMain
    rw [substitute, pieces_cons_of_none missed, List.flatMap_cons]
    refine itemFree_cons.2 ⟨?_, inductionHypothesis later⟩
    -- Up to the first aside the text is as it was, and there a comment stands in either text.
    rcases itemFree_or_first_item span?_proper text with
      free | ⟨lead, taken, after, span, rfl, nonempty, found, earlier⟩
    · rw [pieces_of_itemFree free, Piece.flatMap_expand_map_plain]
      exact missed
    · have read := pieces_append_of_missed earlier
      rw [pieces_append_of_some nonempty found] at read
      have isOther : span.name ≠ mainRegion := by
        apply later
        rw [items, read]
        simp
      rw [read, List.flatMap_append, Piece.flatMap_expand_map_plain, List.flatMap_cons,
        Piece.expand_item]
      have noBegin : begin? (c :: lead) = none := begin?_eq_none_of_span? found missed
      have shown := startsComment_replacement isOther (substitute span? replacement after)
      exact @span?_eq_none_of_comment c lead _ shown noBegin
  | item taken after span nonempty found inductionHypothesis =>
    rw [items_append_of_some nonempty found] at notMain
    obtain ⟨isOther, later⟩ := List.forall_mem_cons.1 notMain
    rw [substitute, pieces_append_of_some nonempty found, List.flatMap_cons, Piece.expand_item]
    exact (inert_replacement isOther).itemFree_append (inductionHypothesis later)

/-- A text without an aside does not hold a begin mark and an end mark after it. -/
theorem ne_of_itemFree {text : Text} (free : ItemFree span? text) {name : Text} (named : name ≠ [])
    (noBlank : ∀ c ∈ name, Unicode.isBlank c = false) (before content after : Text) :
    text ≠ before ++ asideBegin name ++ content ++ asideEnd ++ after := by
  rintro rfl
  have begins := begin?_asideBegin named noBlank (content ++ asideEnd ++ after)
  obtain ⟨value, found⟩ := exists_span?_of_begin? begins (hasPart_append asideEnd content after)
  have missed := itemFree_iff.1 free before (asideBegin name ++ (content ++ asideEnd ++ after))
    (by simp) (by rw [asideBegin_eq, beginLead_eq]; simp)
  rw [missed] at found
  cases found

end AsideSpan

/-- If no aside of a page is one of the main region, the main region holds no aside, nor a begin
mark and an end mark that could be read as one: routing it again gives it back as the only
region. -/
theorem routeRegions_leaves_no_aside {html : Text}
    (notMain : ∀ span ∈ items AsideSpan.span? html, span.name ≠ mainRegion) :
    ∃ main, (routeRegions html).find? mainRegion = some main ∧
      routeRegions main = ⟨[(mainRegion, main)]⟩ ∧
      ∀ before name content after, name ≠ [] → (∀ c ∈ name, Unicode.isBlank c = false) →
        main ≠ before ++ asideBegin name ++ content ++ asideEnd ++ after := by
  have free := AsideSpan.itemFree_substitute_replacement notMain
  refine ⟨_, find?_routeRegions_main html, routeRegions_of_itemFree free, ?_⟩
  intro before name content after named noBlank
  exact AsideSpan.ne_of_itemFree free named noBlank before content after

/-- A begin mark whose name would go on into the comment, an end mark that is left over and a begin
mark without an end. -/
theorem routeRegions_leaves_no_aside_of_stray_marks :
    let html := ("<!-- BEGIN-ASIDE a<!-- BEGIN-ASIDE b -->x<!-- END-ASIDE --> -->y" ++
      "<!-- END-ASIDE --><!-- BEGIN-ASIDE c -->").toList
    let main := ("<!-- BEGIN-ASIDE a<!-- aside --> -->y" ++
      "<!-- END-ASIDE --><!-- BEGIN-ASIDE c -->").toList
    (∀ span ∈ items AsideSpan.span? html, span.name ≠ mainRegion) ∧
      (routeRegions html).find? mainRegion = some main ∧
      routeRegions main = ⟨[(mainRegion, main)]⟩ := by
  intro html main
  have spans : items AsideSpan.span? html = [⟨"b".toList, "x".toList⟩] := by decide +kernel
  have notMain : ∀ span ∈ items AsideSpan.span? html, span.name ≠ mainRegion := by
    rw [spans]
    decide
  obtain ⟨left, found, again, -⟩ := routeRegions_leaves_no_aside notMain
  have same : (routeRegions html).find? mainRegion = some main := by decide +kernel
  have isMain : left = main := Option.some.inj (found.symm.trans same)
  rw [isMain] at again
  exact ⟨notMain, same, again⟩

end Folio
