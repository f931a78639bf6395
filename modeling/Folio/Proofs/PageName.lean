import Folio.Proofs.Filling
import Folio.Proofs.Requoting

/-!
# The name of a page

A page has a title and belongs to a product, and its name joins the two with a dash. The parts are
joined as plain texts, and the name is requoted as a whole. That comes to the same as requoting the
parts and joining them afterwards: an entity that the title begins cannot go on over the blank
behind it, and what the first part reads as is not read again.
-/

namespace Folio

open Text

namespace Entity

/-- Texts with a dash between them are requoted apart. -/
theorem requote_dash (title product : Text) :
    requote (title ++ " - ".toList ++ product) =
      requote title ++ " - ".toList ++ requote product := by
  have blank : isNameChar ' ' = false := by decide
  have dash : requote (' ' :: '-' :: ' ' :: product) = ' ' :: '-' :: ' ' :: requote product := by
    rw [requote_cons_of_plain (by decide) (by decide), requote_cons_of_plain (by decide) (by decide),
      requote_cons_of_plain (by decide) (by decide)]
  calc requote (title ++ " - ".toList ++ product)
      = requote (title ++ ' ' :: '-' :: ' ' :: product) := by simp
    _ = requote title ++ requote (' ' :: '-' :: ' ' :: product) :=
      requote_append_cons blank (by decide) title _
    _ = requote title ++ " - ".toList ++ requote product := by
      rw [dash]
      simp

end Entity

namespace Page

variable (content : Dictionary) (body menu product logo : Text)

/-- The title, then a dash, then the product. -/
theorem fill_title_dash_targetname :
    Placeholder.fill (values content body menu product logo) markupNames
        "@title@ - @targetname@".toList =
      Entity.requote ((content.find? "title".toList).getD []) ++ " - ".toList ++
        Entity.requote product := by
  have split : "@title@ - @targetname@".toList =
      ([] ++ '@' :: ("title".toList ++ ['@']) ++ " - ".toList) ++
        '@' :: ("targetname".toList ++ ['@']) := by simp
  have apart : ∀ c,
      ([] ++ '@' :: ("title".toList ++ ['@']) ++ " - ".toList).getLast? = some c →
        c ≠ '@' ∧ Unicode.isWordChar c = false := by
    intro c last
    have isBlank : c = ' ' := Option.some.inj (last.symm.trans (by simp))
    subst isBlank
    decide
  have titleShown := value_of_not_own (by decide : "title".toList ∉ ownNames) content body menu
    product logo
  have productShown : Placeholder.value (values content body menu product logo) markupNames
      "targetname".toList = Entity.requote product := by
    rw [Placeholder.value, find?_values_targetname]
    rfl
  rw [split, Placeholder.fill_append apart,
    Placeholder.fill_append_placeholder_append List.not_mem_nil (by simp) (by decide) (by simp),
    Placeholder.fill_placeholder (by simp) (by decide), titleShown, productShown, List.nil_append]

theorem fill_name :
    Placeholder.fill (values content body menu product logo) markupNames "@name@".toList =
      Entity.requote ((content.find? "title".toList).getD [] ++ " - ".toList ++ product) := by
  have isPlaceholder : "@name@".toList = '@' :: ("name".toList ++ ['@']) := by simp
  rw [isPlaceholder, Placeholder.fill_placeholder (by simp) (by decide), Placeholder.value,
    find?_values_name]
  rfl

end Page

/-- The name of a page is its title, a dash and the product, each of the two requoted: a page whose
template is the name is the page whose template puts the name together. -/
theorem Renderer.render_name (renderer : Renderer) (source : Text) (theme : Theme)
    (given : Option Dictionary) :
    let page := renderer.render "@name@".toList source theme given
    page = renderer.render "@title@ - @targetname@".toList source theme given ∧
      page.html = Entity.requote (page.title.getD []) ++ " - ".toList ++
        Entity.requote (Page.product theme) := by
  intro page
  have whole := harvest_of_not_mem (by decide : '<' ∉ "@name@".toList)
  have parts := harvest_of_not_mem (by decide : '<' ∉ "@title@ - @targetname@".toList)
  constructor
  · simp only [page, Renderer.render, whole, parts, Page.fill_name,
      Page.fill_title_dash_targetname, Entity.requote_dash]
  · simp only [page, Renderer.render, whole, Page.fill_name, Entity.requote_dash]

/-- Neither an entity that the title reads as nor one that it begins is ended by the product. -/
example :
    Entity.requote ("&amp;lt &lt".toList ++ " - ".toList ++ "; &gt;".toList) =
      "&amp;lt &amp;lt - ; &gt;".toList := by
  decide +kernel

end Folio
