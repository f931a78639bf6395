import Folio.Page
import Folio.Proofs.Entity
import Folio.Proofs.Text.Mark

/-!
# Page data cannot become markup

A page shows data that its author does not control: the values given by the caller, the name of
the product, the logos, the settings and the metadata of the source. Every route by which a value
reaches the page either requotes it or goes through one of the three placeholders of finished
markup, and those three are filled by the library itself. So the characters of markup in a page,
in order, do not depend on the data.
-/

namespace Folio

/-- Spellings with the same markup make texts with the same markup. -/
theorem markup_substitute_congr {α : Type} {recognise : Text.Recogniser α}
    {first second : α → Text} (same : ∀ value, markup (first value) = markup (second value))
    (text : Text) :
    markup (Text.substitute recognise first text) =
      markup (Text.substitute recognise second text) := by
  unfold Text.substitute
  induction Text.pieces recognise text with
  | nil => rfl
  | cons piece pieces inductionHypothesis =>
    simp only [List.flatMap_cons, markup_append, inductionHypothesis]
    cases piece with
    | plain c => rfl
    | item value => simp [same value]

theorem markup_replaceFrom_congr {first second : Text} (same : markup first = markup second)
    (mark text : Text) (skip : Nat) :
    markup (Text.replaceFrom mark first skip text) =
      markup (Text.replaceFrom mark second skip text) := by
  induction text generalizing skip with
  | nil => rw [Text.replaceFrom_nil, Text.replaceFrom_nil]
  | cons c text inductionHypothesis =>
    cases skip with
    | succ skip => exact inductionHypothesis skip
    | zero =>
      rw [Text.replaceFrom, Text.replaceFrom]
      split
      · rw [markup_append, markup_append, same, inductionHypothesis]
      · rw [← List.singleton_append, markup_append, inductionHypothesis, ← markup_append]
        rfl

/-- Replacements with the same markup make texts with the same markup. -/
theorem markup_replaceAll_congr {first second : Text} (same : markup first = markup second)
    (mark text : Text) :
    markup (Text.replaceAll mark first text) = markup (Text.replaceAll mark second text) :=
  markup_replaceFrom_congr same mark text 0

namespace Placeholder

/-- Only the values of finished markup decide about the markup of a filled template. -/
theorem markup_fill_congr {first second : Dictionary} {finished : List Text}
    (same : ∀ name ∈ finished,
      markup ((first.find? name).getD []) = markup ((second.find? name).getD []))
    (template : Text) :
    markup (fill first finished template) = markup (fill second finished template) := by
  apply markup_substitute_congr
  intro name
  unfold value
  by_cases listed : name ∈ finished
  · simpa [listed] using same name listed
  · simp [listed]

end Placeholder

namespace Page

theorem find?_values_body (content : Dictionary) (body menu product logo : Text) :
    (values content body menu product logo).find? "body".toList = some body := by
  rw [values, Dictionary.find?_insertAll]
  rfl

theorem find?_values_menu (content : Dictionary) (body menu product logo : Text) :
    (values content body menu product logo).find? "menu".toList = some menu := by
  rw [values, Dictionary.find?_insertAll]
  rfl

theorem find?_values_targetlogo (content : Dictionary) (body menu product logo : Text) :
    (values content body menu product logo).find? "targetlogo".toList = some logo := by
  rw [values, Dictionary.find?_insertAll]
  rfl

/-- Whatever the content is, a template takes its markup from the body, the menu and the logo. -/
theorem markup_fill_values {firstContent secondContent : Dictionary}
    {body menu firstProduct secondProduct firstLogo secondLogo : Text}
    (sameLogo : markup firstLogo = markup secondLogo) (template : Text) :
    markup (Placeholder.fill (values firstContent body menu firstProduct firstLogo)
        markupNames template) =
      markup (Placeholder.fill (values secondContent body menu secondProduct secondLogo)
        markupNames template) := by
  apply Placeholder.markup_fill_congr
  intro name listed
  simp only [markupNames, List.mem_cons, List.not_mem_nil, or_false] at listed
  rcases listed with rfl | rfl | rfl
  · simp only [find?_values_body]
  · simp only [find?_values_menu]
  · simp only [find?_values_targetlogo, Option.getD_some, sameLogo]

/-- The image of a logo has the same markup for every logo. -/
theorem markup_logoImage (logoAddress : Text → Text) (theme : Theme) :
    markup (logoImage logoAddress theme) =
      if theme.docsLogo.isSome then "<\"\">".toList else [] := by
  unfold logoImage
  cases theme.docsLogo with
  | none => rfl
  | some docsLogo =>
    rw [markup_append, markup_append, Entity.markup_requote]
    rfl

end Page

/-- Two pages that differ in the values given by the caller, in the name of the product and in
the logos have the same characters of markup in the same order, and the same notices. -/
theorem Renderer.render_markup_independent (renderer : Renderer) (template source : Text)
    (firstTheme secondTheme : Theme) (firstGiven secondGiven : Option Dictionary)
    (sameMenu : firstTheme.menu = secondTheme.menu)
    (sameDocsLogo : firstTheme.docsLogo.isSome = secondTheme.docsLogo.isSome) :
    markup (renderer.render template source firstTheme firstGiven).html =
        markup (renderer.render template source secondTheme secondGiven).html ∧
      (renderer.render template source firstTheme firstGiven).notices =
        (renderer.render template source secondTheme secondGiven).notices := by
  have sameLogo : markup (Page.logoImage renderer.logoAddress firstTheme) =
      markup (Page.logoImage renderer.logoAddress secondTheme) := by
    rw [Page.markup_logoImage, Page.markup_logoImage, sameDocsLogo]
  constructor
  · simp only [Renderer.render, sameMenu]
    exact Page.markup_fill_values sameLogo _
  · simp only [Renderer.render, sameMenu]

/-- A product name and a caller's value full of markup leave the page's own tags as they are. -/
theorem Renderer.render_markup_independent_of_hostile_values :
    let template := "<title>@name@</title><i title='@author@'>@targetlogo@</i>@menu@@body@".toList
    let source := "# Guide\n\n# @author <b>\n".toList
    let menu := [MenuEntry.leaf "Home".toList (some "/".toList)]
    let plain : Theme := ⟨none, none, some "/logo.png".toList, menu⟩
    let hostile : Theme :=
      ⟨some "\"><script>".toList, some "'><svg>".toList, some "<svg/>".toList, menu⟩
    let given : Dictionary := .ofList [("author".toList, "'><b>".toList),
      ("body".toList, "<script>".toList), ("name".toList, "<h1>".toList)]
    plain.menu = hostile.menu ∧ plain.docsLogo.isSome = hostile.docsLogo.isSome ∧
      markup (Renderer.usual.render template source plain none).html =
        markup (Renderer.usual.render template source hostile (some given)).html ∧
      (Renderer.usual.render template source plain none).notices =
        (Renderer.usual.render template source hostile (some given)).notices := by
  intro template source menu plain hostile given
  exact ⟨rfl, rfl, render_markup_independent Renderer.usual template source plain hostile none
    (some given) rfl rfl⟩

end Folio
