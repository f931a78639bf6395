import Folio.Proofs.Harvest
import Folio.Proofs.Register
import Folio.Proofs.Region

/-!
# Declared names in a page

The name of a declaration is written into markup twice: into the comment that takes the place of
its block, and, if it is an aside, into the mark at which its content begins. A name comes from the
attributes of a tag, however badly these are written, so it holds no character that begins or ends
a tag. Therefore it cannot close the comment, and the mark gives back just this name.
-/

namespace Folio

open Text

/-- A name that can be written into a comment and into a begin mark. -/
structure IsEmbeddable (name : Text) : Prop where
  named : name ≠ []
  noBlank : ∀ c ∈ name, Unicode.isBlank c = false
  noTagBegin : '<' ∉ name
  noTagEnd : '>' ∉ name

/-! ## The names of accepted blocks -/

/-- No tag begins or ends among the attributes of a block. -/
theorem DeclarationBlock.not_mem_attributes {template : Text} {block : DeclarationBlock}
    (member : block ∈ items block? template) :
    '<' ∉ block.attributes ∧ '>' ∉ block.attributes := by
  rcases exists_found_of_mem_items block?_proper member with ⟨before, taken, after, -, found⟩
  rcases block?_eq_some_iff.1 found with ⟨rest, opened, -⟩
  rcases opening?_eq_some_iff.1 opened with ⟨blank, -, -, inside, -⟩
  exact inside

/-- Every template, well written or not, declares bodies under embeddable names only. -/
theorem isEmbeddable_of_mem_harvest {template : Text} {declaration : Declaration}
    (member : declaration ∈ (harvest template).declarations) : IsEmbeddable declaration.name := by
  rcases exists_block_of_mem_harvest member with ⟨block, isBlock, accepted⟩
  rcases DeclarationBlock.not_mem_attributes isBlock with ⟨noBegin, noEnd⟩
  rcases name_of_mem_harvest member with ⟨named, noBlank⟩
  constructor
  · exact named
  · exact noBlank
  · exact DeclarationBlock.not_mem_name (by decide) noBegin accepted
  · exact DeclarationBlock.not_mem_name (by decide) noEnd accepted

/-! ## The comment of a declaration -/

/-- A character that a text has at its end alone is found nowhere else in it. -/
theorem eq_nil_of_append_cons {c : Char} {front before after : Text} (absent : c ∉ front)
    (same : front ++ [c] = before ++ c :: after) : after = [] := by
  rcases after.eq_nil_or_concat' with rfl | ⟨middle, last, rfl⟩
  · rfl
  · have lasts : front ++ [c] = (before ++ c :: middle) ++ [last] := by
      simpa using same
    have inFront : front = before ++ c :: middle := List.append_inj_left' lasts rfl
    rw [inFront] at absent
    apply absurd _ absent
    exact List.mem_append_right before List.mem_cons_self

/-- The comment that stands for a declaration is closed by nothing before its end. -/
theorem Declaration.comment_closes_at_end {declaration : Declaration}
    (noTagEnd : '>' ∉ declaration.name) {before after : Text}
    (split : declaration.comment = before ++ "-->".toList ++ after) : after = [] := by
  have absent : '>' ∉ "<!-- macro ".toList ++ declaration.name ++ " --".toList := by
    simpa using noTagEnd
  have ends : ("<!-- macro ".toList ++ declaration.name ++ " --".toList) ++ ['>'] =
      declaration.comment := by
    unfold comment
    simp
  have arrow : before ++ "-->".toList ++ after = (before ++ "--".toList) ++ '>' :: after := by
    simp
  exact eq_nil_of_append_cons absent (ends.trans (split.trans arrow))

/-- The comment of an accepted declaration stands in the harvested template. -/
theorem exists_comment_of_mem_harvest {template : Text} {declaration : Declaration}
    (member : declaration ∈ (harvest template).declarations) :
    ∃ left right, (harvest template).template = left ++ declaration.comment ++ right := by
  rcases exists_block_of_mem_harvest member with ⟨block, isBlock, accepted⟩
  rcases exists_substitute_eq_of_mem isBlock
    (fun block => DeclarationBlock.replacement block.declaration) with ⟨left, right, whole⟩
  rw [accepted] at whole
  exact ⟨left, right, whole⟩

/-! ## The region of an aside -/

/-- A page that is one aside has its content in the region of its name, and a comment in the main
region. -/
theorem routeRegions_of_readsAs {page : Text} {span : AsideSpan}
    (reads : ReadsAs AsideSpan.span? page span) (notMain : span.name ≠ mainRegion) :
    routeRegions page =
      ⟨[(mainRegion, "<!-- aside -->".toList), (span.name, span.content)]⟩ := by
  have spans : items AsideSpan.span? page = [span] := by
    have only := pieces_append_of_readsAs reads []
    rw [List.append_nil] at only
    rw [items, only]
    rfl
  have collected : Registers.collected [span] = [(span.name, span.content)] := by
    have regions : AsideSpan.regions [span] = [span.name] := by
      simp [AsideSpan.regions, notMain, List.eraseDups_cons]
    rw [Registers.collected, regions]
    simp [AsideSpan.contentsOf]
  have entries := entries_routeRegions page
  rw [substitute_of_readsAs reads, spans, collected, AsideSpan.replacement, if_neg notMain]
    at entries
  exact congrArg Registers.mk entries

/-- Every name that a template declares can be written where it is written. It is not empty and
holds neither whitespace nor the begin or the end of a tag. The comment with it stands in the
harvested template and closes only at its end. An aside is never one of the main region, and the
begin mark at the start of its body, any content without an end mark and an end mark are one aside,
which goes to the region of just this name. -/
theorem declared_name_embeds {template : Text} {declaration : Declaration}
    (member : declaration ∈ (harvest template).declarations) :
    IsEmbeddable declaration.name ∧
      (∃ left right, (harvest template).template = left ++ declaration.comment ++ right) ∧
      (∀ before after, declaration.comment = before ++ "-->".toList ++ after → after = []) ∧
      (declaration.kind = .aside →
        declaration.name ≠ mainRegion ∧
          (∃ body, declaration.body = asideBegin declaration.name ++ body ++ asideEnd) ∧
          ∀ content, hasPart asideEnd content = false →
            let page := asideBegin declaration.name ++ content ++ asideEnd
            ReadsAs AsideSpan.span? page ⟨declaration.name, content⟩ ∧
              routeRegions page =
                ⟨[(mainRegion, "<!-- aside -->".toList), (declaration.name, content)]⟩) := by
  have embeddable := isEmbeddable_of_mem_harvest member
  refine ⟨embeddable, exists_comment_of_mem_harvest member, ?_, ?_⟩
  · intro before after split
    exact Declaration.comment_closes_at_end embeddable.noTagEnd split
  · intro isAside
    rcases exists_block_of_mem_harvest member with ⟨block, -, accepted⟩
    rcases DeclarationBlock.eq_ofBody_of_declaration accepted with ⟨whole, -, -, notReserved⟩
    have notMain : declaration.name ≠ mainRegion := fun isMain => notReserved ⟨isAside, isMain⟩
    refine ⟨notMain, ⟨block.content, ?_⟩, ?_⟩
    · rw [whole, isAside]
      rfl
    · intro content noEnd page
      have reads : ReadsAs AsideSpan.span? page ⟨declaration.name, content⟩ :=
        AsideSpan.readsAs_span embeddable.named embeddable.noBlank noEnd
      exact ⟨reads, routeRegions_of_readsAs reads notMain⟩

/-- Quotation marks that are not closed, tags that are not opened or not closed, and a content with
a begin mark and the beginning of an end mark. -/
theorem declared_name_embeds_of_stray_quotes :
    let template := ("</aside><aside id='a data-name=\"b--c class=my-aside>@BODY@</aside>" ++
      "<aside x").toList
    let declaration : Declaration := ⟨.aside, "\"b--c".toList,
      "<!-- BEGIN-ASIDE \"b--c -->@BODY@<!-- END-ASIDE -->".toList⟩
    let content := "<!-- BEGIN-ASIDE x --><!-- END-ASIDE ".toList
    declaration ∈ (harvest template).declarations ∧ declaration.kind = .aside ∧
      hasPart asideEnd content = false ∧
      (harvest template).template = "</aside><!-- macro \"b--c --><aside x".toList ∧
      routeRegions (asideBegin "\"b--c".toList ++ content ++ asideEnd) =
        ⟨[("main".toList, "<!-- aside -->".toList), ("\"b--c".toList, content)]⟩ := by
  intro template declaration content
  have member : declaration ∈ (harvest template).declarations := by decide +kernel
  have isAside : declaration.kind = .aside := rfl
  have noEnd : hasPart asideEnd content = false := by decide +kernel
  rcases declared_name_embeds member with ⟨-, -, -, ofAside⟩
  rcases ofAside isAside with ⟨-, -, routed⟩
  exact ⟨member, isAside, noEnd, by decide +kernel, (routed content noEnd).2⟩

end Folio
