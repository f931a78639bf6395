import Folio.Proofs.Container
import Folio.Proofs.Document
import Folio.Proofs.Routing

/-!
# Documents without commands and asides

What a source comes to goes through four passes: the commands are carried out, the asides are
sorted, the text is set into its container and the container into the template. A document in
which no heading tag and no begin mark stands goes through all four character for character. The
placeholders that are filled are those of the container and of the template, never what looks like
a placeholder, a reference to a group or an entity in the document.
-/

namespace Folio

open Text

/-- No command stands in a document in which no heading tag starts. -/
theorem Command.itemFree_command? {document : Text}
    (noHeading : hasPart "<h".toList document = false) : ItemFree command? document := by
  refine itemFree_of_absent ?_ noHeading
  rintro text ⟨command, after⟩ found
  obtain ⟨tag, split⟩ := exists_append_of_command? found
  exact hasPart_iff.2 ⟨[], tag ++ after, split⟩

/-- No aside stands in a document in which no begin mark starts. -/
theorem AsideSpan.itemFree_span? {document : Text}
    (noBegin : hasPart "<!-- BEGIN-ASIDE".toList document = false) :
    ItemFree span? document := by
  refine itemFree_of_absent ?_ (WrittenAside.beginLead_absent noBegin)
  intro text value found
  obtain ⟨rest, split⟩ := WrittenAside.lead_of_span? found
  exact hasPart_iff.2 ⟨[], rest, split⟩

/-- A document without heading tags and begin marks is set into its container and into the page as
it stands. -/
theorem Renderer.render_of_plain_document (renderer : Renderer) (template source : Text)
    (theme : Theme) (given : Option Dictionary) {document : Text}
    (converted : renderer.convert (normalizeLinks renderer.links source) = document)
    (noHeading : hasPart "<h".toList document = false)
    (noBegin : hasPart "<!-- BEGIN-ASIDE".toList document = false) :
    let harvested := harvest template
    let tables := renderer.defaults.tables.declareAll harvested.declarations
    let container := (tables.boxes.find? "main-container".toList).getD "@BODY@".toList
    let body := substitute Placeholder.placeholder? (Registers.shown document) container
    let page := renderer.render template source theme given
    page.html =
        substitute Placeholder.placeholder?
          (Page.shown given ⟨document, [], []⟩ body (renderMenu tables.menus theme.menu).html
            (Page.product theme) (Page.logoImage renderer.logoAddress theme))
          harvested.template ∧
      (template = "@body@".toList → tables.boxes.find? "main-container".toList = none →
        page.html = document) := by
  intro harvested tables container body page
  have outcome : carryOutCommands tables document = ⟨document, [], []⟩ :=
    carryOutCommands_of_itemFree (Command.itemFree_command? noHeading) tables
  have routed := routeRegions_of_itemFree (AsideSpan.itemFree_span? noBegin)
  have wrapped : (routeRegions document).wrap tables.boxes = body := by
    rw [routed, Registers.wrap, List.flatMap_singleton, Registers.wrapEntry_eq]
    rfl
  have filled : page.html =
      substitute Placeholder.placeholder?
        (Page.shown given ⟨document, [], []⟩ body (renderMenu tables.menus theme.menu).html
          (Page.product theme) (Page.logoImage renderer.logoAddress theme))
        harvested.template := by
    simp only [page, Renderer.render, converted]
    rw [outcome, Placeholder.fill, Page.value_values, wrapped]
  refine ⟨filled, ?_⟩
  intro isBody noContainer
  have isPlaceholder : template = '@' :: ("body".toList ++ ['@']) := by
    rw [isBody]
    simp
  have word : ∀ c ∈ "body".toList, Unicode.isWordChar c = true := by decide
  have unchanged : harvested.template = template := by
    simp only [harvested, isPlaceholder, harvest_placeholder word]
  have reads := @Placeholder.readsAs_placeholder "body".toList (by simp) word
  have alone : container = bodyMark := by
    simp only [container, noContainer]
    rfl
  rw [filled, unchanged, isPlaceholder, substitute_of_readsAs reads, Page.shown, if_pos rfl]
  simp only [body, alone, Registers.substitute_bodyMark]

/-- A document of names, a group and an entity comes to the page as it is converted: into a
container that names its content twice, and into a page without a container. -/
theorem Renderer.render_of_plain_document_of_names :
    let source := "@title@ @BODY@ $1 < @ARGS@".toList
    let document := "<p>@title@ @BODY@ $1 &lt; @ARGS@</p>\n".toList
    let container := "<i>@BODY@@ARGS@|@BODY@</i>".toList
    let template := "<aside class='box' id='main-container'>".toList ++ container ++
      "</aside><b>@title@</b>@body@".toList
    let given := Dictionary.ofList [("name".toList, "A & B".toList)]
    (Renderer.usual.convert (normalizeLinks Renderer.usual.links source) = document ∧
      hasPart "<h".toList document = false ∧
      hasPart "<!-- BEGIN-ASIDE".toList document = false) ∧
    (Renderer.usual.render template source .plain (some given)).html =
        "<!-- macro main-container --><b>A &amp; B</b><i>".toList ++ document ++ "|".toList ++
          document ++ "</i>".toList ∧
      (Renderer.usual.render "@body@".toList source .plain none).html = document := by
  intro source document container template given
  have converted : Renderer.usual.convert (normalizeLinks Renderer.usual.links source) =
      document := by
    decide +kernel
  have noHeading : hasPart "<h".toList document = false := by decide
  have noBegin : hasPart "<!-- BEGIN-ASIDE".toList document = false := by decide
  refine ⟨⟨converted, noHeading, noBegin⟩, ?_, ?_⟩
  · have filled := render_of_plain_document Renderer.usual template source .plain (some given)
      converted noHeading noBegin
    exact filled.1.trans (by decide +kernel)
  · have filled := render_of_plain_document Renderer.usual "@body@".toList source .plain none
      converted noHeading noBegin
    exact filled.2 rfl (by decide +kernel)

end Folio
