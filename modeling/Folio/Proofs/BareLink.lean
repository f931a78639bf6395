import Folio.Link.Line
import Folio.Proofs.Text.Lines
import Folio.Proofs.Text.Mark
import Folio.Proofs.Text.Run

/-!
# Bare links as commands

A source of one line that holds nothing but a link is replaced by the command of the first rule that
fits the link. The rule of a site takes a key out of the link: the longest run of a class of
characters after the address of the site.
-/

namespace Folio

/-! ## Sources of one line -/

theorem normalizeLinks_of_oneLine (rules : List LinkRule) {source : Text} (nonempty : source ≠ [])
    (oneLine : source.OneLine) :
    normalizeLinks rules source = normalizeLine rules source := by
  rw [normalizeLinks, Text.lines_of_oneLine nonempty oneLine]
  simp [Text.ofLines]

/-- A scheme and visible characters after it are a bare link. -/
theorem bareLink?_https {link : Text} (nonempty : link ≠ [])
    (visible : ∀ c ∈ link, Unicode.isBlank c = false) :
    bareLink? ("https://".toList ++ link) = some link := by
  have solid : ∀ c ∈ link, (!Unicode.isBlank c) = true := by simpa using visible
  have noPadding : ("https://".toList ++ link).dropWhile isLinkPadding =
      "https://".toList ++ link := by
    rfl
  have noScheme : dropScheme? ("https://".toList ++ link) = some link := by
    simp [dropScheme?]
  rw [bareLink?, noPadding, noScheme]
  cases link with
  | nil => exact absurd rfl nonempty
  | cons c link => simp [Text.run_of_all solid]

/-- A source that is a bare link becomes the command of the first rule that fits the link. -/
theorem normalizeLinks_https {rules : List LinkRule} {link command : Text} (nonempty : link ≠ [])
    (visible : ∀ c ∈ link, Unicode.isBlank c = false)
    (fits : firstExpansion? rules link = some command) :
    normalizeLinks rules ("https://".toList ++ link) = command := by
  have scheme : Text.OneLine "https://".toList := by decide
  have oneLine := scheme.append (Text.oneLine_of_visible visible)
  rw [normalizeLinks_of_oneLine rules (by simp) oneLine, normalizeLine,
    bareLink?_https nonempty visible, Option.bind_some, fits, Option.getD_some]

/-! ## The rule of a site -/

namespace LinkRule

/-- The rule of a site fits the links to it that have a key. -/
theorem expand?_ofSite {site rest : Text} {inKey : Char → Bool} (hasKey : rest.takeWhile inKey ≠ [])
    (command : Text) :
    (ofSite site inKey command).expand? (site ++ rest) =
      some (expandWith [some (site ++ rest.takeWhile inKey), some (rest.takeWhile inKey)]
        command) := by
  have lead : Text.dropLead? site (site ++ rest) = some rest := Text.dropLead?_eq_some_iff.2 rfl
  simp only [expand?, ofSite, lead, Option.map_some]
  cases key : rest.takeWhile inKey with
  | nil => exact absurd key hasKey
  | cons c key => rfl

/-- The rule of a site fits no link to another site. -/
theorem expand?_ofSite_of_other {site link : Text} (other : Text.dropLead? site link = none)
    (inKey : Char → Bool) (command : Text) : (ofSite site inKey command).expand? link = none := by
  simp [expand?, ofSite, other]

/-- The command of a video rule is a heading of the third level that names a macro and gives it the
key of the video. -/
theorem expandWith_videoCommand {macroName : String} (plain : '$' ∉ macroName.toList)
    (whole : Option Text) (key : Text) :
    expandWith [whole, some key] (videoCommand macroName) =
      "### @".toList ++ macroName.toList ++ ' ' :: key := by
  have starts : ∀ {text : Text} {value : Text × Text}, reference? text = some value →
      ∃ rest, text = ['$'] ++ rest := by
    intro text value found
    unfold reference? at found
    split at found
    · next text => exact ⟨text, rfl⟩
    · cases found
  have noReference : '$' ∉ "### @".toList ++ macroName.toList ++ [' '] := by
    simp only [List.mem_append, not_or]
    exact ⟨⟨by decide, plain⟩, by decide⟩
  have inert := (@Text.inert_of_not_mem '$' [] _ noReference).of_lead starts
  have found : reference? (['$', '1'] ++ []) = some (['1'], []) := rfl
  have isKey : part [whole, some key] ['1'] = key := rfl
  have split : videoCommand macroName =
      "### @".toList ++ macroName.toList ++ [' '] ++ (['$', '1'] ++ []) :=
    (List.append_assoc ("### @".toList ++ macroName.toList) [' '] ['$', '1']).symm
  rw [expandWith, Text.substitute, split, Text.pieces_append_of_inert inert,
    Text.pieces_append_of_some (List.cons_ne_nil _ _) found]
  simp [isKey]

end LinkRule

end Folio
