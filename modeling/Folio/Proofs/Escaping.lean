import Folio.Proofs.Document
import Folio.Proofs.Encoding
import Folio.Proofs.PageValue
import Folio.Proofs.Unicode.LowerCase

/-!
# A text is escaped once on its way into a page

The text of a heading is requoted where it is recorded as a setting or detected as the title, and
again where it is filled into the template. However its characters are written in the source, the
page shows the quoted text. The first pass decodes every spelling to the text itself, and since
what the first pass writes is again a spelling of that text, the second pass changes nothing.
-/

namespace Folio

open Entity

/-- A heading that records a setting, with the spelling of its argument. -/
def settingHeading (word encoded : Text) : Text :=
  "<h1>@".toList ++ word ++ " ".toList ++ encoded ++ "</h1>".toList

/-- A heading that gives a page its title, with the spelling of the title. -/
def titleHeading (encoded : Text) : Text :=
  "<h1>".toList ++ encoded ++ "</h1>".toList

theorem settingHeading_eq (word encoded : Text) :
    settingHeading word encoded = Command.written '1' '@' (word ++ ' ' :: encoded) := by
  unfold settingHeading Command.written
  simp

theorem titleHeading_eq (encoded : Text) :
    titleHeading encoded = '<' :: 'h' :: '1' :: '>' :: (encoded ++ ['<', '/', 'h', '1', '>']) := by
  unfold titleHeading
  simp

/-! ## Words of letters -/

theorem ne_of_isAlpha {c d : Char} (letter : c.isAlpha = true) (noLetter : d.isAlpha = false) :
    c ≠ d := by
  rintro rfl
  rw [letter] at noLetter
  exact Bool.false_ne_true noLetter.symm

/-- A word of letters is its own requoted form. -/
theorem requote_of_letters {word : Text} (letters : ∀ c ∈ word, c.isAlpha = true) :
    requote word = word := by
  apply requote_of_plain
  intro c member
  have letter := letters c member
  refine ⟨ne_of_isAlpha letter rfl, ?_⟩
  simp only [isMarkup, Bool.or_eq_false_iff, beq_eq_false_iff_ne]
  exact ⟨⟨⟨ne_of_isAlpha letter rfl, ne_of_isAlpha letter rfl⟩, ne_of_isAlpha letter rfl⟩,
    ne_of_isAlpha letter rfl⟩

/-- The lower case of letters is a name that a placeholder can have. -/
theorem isWordChar_of_mem_lowerCase {word : Text} (letters : ∀ c ∈ word, c.isAlpha = true) :
    ∀ c ∈ Unicode.lowerCase word, Unicode.isWordChar c = true := by
  intro c member
  have small := Unicode.isLower_of_mem_lowerCase letters c member
  exact Unicode.isWordChar_of_isAlpha (Bool.or_eq_true_iff.2 (.inr small))

/-! ## Spellings in a heading -/

section Heading

variable {text encoded : Text} (encodes : Encodes text encoded)
  (head : ∀ c, text.head? = some c → Unicode.isBlank c = false)
include encodes head

/-- A spelling starts with whitespace only where its text does. -/
theorem isBlank_head_of_encodes {c : Char} (first : encoded.head? = some c) :
    Unicode.isBlank c = false := by
  rcases encodes.head? first with same | isLead
  · exact head c same
  · rw [isLead]
    decide

variable (oneLine : '\n' ∉ text)
include oneLine

/-- A heading of a setting reads as the command with the spelling as its argument. -/
theorem readsAs_settingHeading {word : Text} (nonempty : word ≠ [])
    (letters : ∀ c ∈ word, c.isAlpha = true) :
    Text.ReadsAs Command.command? (settingHeading word encoded) ⟨.expand, word, encoded⟩ := by
  have noBlank : ∀ c ∈ word, Unicode.isBlank c = false :=
    fun c member => Unicode.isBlank_of_isAlpha (letters c member)
  have trimmed : Text.trimStart encoded = encoded :=
    Text.trimStart_of_head fun c first => isBlank_head_of_encodes encodes head first
  have wordNoTag : '<' ∉ word := fun member => ne_of_isAlpha (letters _ member) rfl rfl
  have wordOneLine : '\n' ∉ word := fun member => ne_of_isAlpha (letters _ member) rfl rfl
  rw [settingHeading_eq, ← Command.ofText_append .expand noBlank trimmed]
  apply Command.readsAs_written (by decide) rfl
  · simp [wordNoTag, encodes.noLess]
  · simp [wordOneLine, encodes.oneLine oneLine]
  · intro c first
    cases word with
    | nil => exact absurd rfl nonempty
    | cons d word =>
      obtain rfl : d = c := by simpa using first
      exact noBlank d (List.mem_cons_self ..)

/-- A heading of a known setting records the quoted text under the word in lower case. -/
theorem settings_settingHeading {tables : Tables} {word body : Text} (nonempty : word ≠ [])
    (letters : ∀ c ∈ word, c.isAlpha = true)
    (known : tables.settings.find? word = some body) :
    (carryOutCommands tables (settingHeading word encoded)).settings =
      [(Unicode.lowerCase word, quote text)] := by
  have name : (⟨.expand, word, encoded⟩ : Command).name = word := requote_of_letters letters
  have value : (⟨.expand, word, encoded⟩ : Command).value = quote text := encodes.requote_eq
  have setting : ((⟨.expand, word, encoded⟩ : Command).respond tables none).setting =
      some (Unicode.lowerCase word, quote text) := by
    simp [Command.respond, Command.respondExpand, name, value, known]
  rw [carryOutCommands_of_readsAs
    (readsAs_settingHeading encodes head oneLine nonempty letters), setting]
  rfl

end Heading

/-- The title of a page that is one heading of plain text is the text. -/
theorem firstItem?_titleHeading {encoded : Text} (nonempty : encoded ≠ [])
    (noLess : '<' ∉ encoded) (noGreater : '>' ∉ encoded) :
    Text.firstItem? Metadata.heading? (titleHeading encoded) = some encoded := by
  have inside : ∀ c ∈ encoded, Metadata.isInsideTag c = true :=
    Text.forall_inside_iff.2 ⟨noLess, noGreater⟩
  have read : Text.run Metadata.isInsideTag (encoded ++ ['<', '/', 'h', '1', '>']) =
      (encoded, ['<', '/', 'h', '1', '>']) :=
    Text.run_append_cons inside rfl _
  have found : Metadata.heading? (titleHeading encoded) = some (encoded, []) := by
    rw [titleHeading_eq]
    cases encoded with
    | nil => exact absurd rfl nonempty
    | cons c encoded =>
      rw [List.cons_append] at read
      simp [Metadata.heading?, Metadata.isInsideTag, read]
  rw [titleHeading_eq] at found ⊢
  rw [Text.firstItem?, found]

/-! ## Headings in a page -/

/-- A page whose template asks for a setting shows the quoted text of the heading that records it,
whatever values the caller gives. -/
theorem html_render_settingHeading {text encoded : Text} (encodes : Encodes text encoded)
    (nonempty : text ≠ []) (oneLine : '\n' ∉ text)
    (head : ∀ c, text.head? = some c → Unicode.isBlank c = false)
    {renderer : Renderer} {source word body : Text} (wordNonempty : word ≠ [])
    (letters : ∀ c ∈ word, c.isAlpha = true)
    (notTitle : Unicode.lowerCase word ≠ "title".toList)
    (free : Unicode.lowerCase word ∉ Page.ownNames)
    (known : renderer.defaults.tables.settings.find? word = some body)
    (converted : renderer.convert (normalizeLinks renderer.links source) =
      settingHeading word encoded)
    (theme : Theme) (given : Option Dictionary) :
    (renderer.render ('@' :: (Unicode.lowerCase word ++ ['@'])) source theme given).html =
      quote text := by
  have recorded : (carryOutCommands renderer.defaults.tables
      (settingHeading word encoded)).settings.reverse.lookup (Unicode.lowerCase word) =
        some (quote text) := by
    rw [settings_settingHeading encodes head oneLine wordNonempty letters known]
    simp
  have quoted : quote text ≠ [] := fun empty => nonempty (quote_eq_nil_iff.1 empty)
  have named : Unicode.lowerCase word ≠ [] :=
    fun empty => wordNonempty (Unicode.lowerCase_eq_nil_iff.1 empty)
  rw [Renderer.html_render_placeholder named (isWordChar_of_mem_lowerCase letters) free, converted,
    Page.find?_contentValues recorded quoted notTitle, Option.getD_some, requote_quote]

/-- A page whose template asks for the title shows the quoted text of a heading that is not a
command. -/
theorem html_render_titleHeading {text encoded : Text} (encodes : Encodes text encoded)
    (nonempty : text ≠ [])
    (head : ∀ c, text.head? = some c → Unicode.isBlank c = false ∧ c ≠ '@' ∧ c ≠ '~')
    (noGreater : '>' ∉ encoded) {renderer : Renderer} {source : Text}
    (converted : renderer.convert (normalizeLinks renderer.links source) = titleHeading encoded)
    (theme : Theme) :
    (renderer.render "@title@".toList source theme none).html = quote text := by
  have noCommand : Text.ItemFree Command.command? (titleHeading encoded) := by
    rw [titleHeading_eq]
    apply Command.itemFree_heading (by decide) encodes.noLess
    intro c first
    rcases encodes.head? first with same | isLead
    · obtain ⟨noBlank, notExpand, notBox⟩ := head c same
      refine ⟨noBlank, ?_⟩
      unfold Sigil.ofChar?
      split
      · exact absurd rfl notExpand
      · exact absurd rfl notBox
      · rfl
    · rw [isLead]
      decide
  have detected : (Metadata.detect (titleHeading encoded)).title = some (quote text) := by
    rw [Metadata.detect,
      firstItem?_titleHeading (encodes.ne_nil nonempty) encodes.noLess noGreater,
      Option.map_some, encodes.requote_eq]
  have template : "@title@".toList = '@' :: ("title".toList ++ ['@']) := by simp
  rw [template, Renderer.html_render_placeholder (by simp) (by decide) (by decide), converted,
    carryOutCommands_of_itemFree noCommand, Page.find?_contentValues_title rfl detected,
    Option.getD_some, requote_quote]

/-- In whatever spelling a heading gives a text, the setting that it records, the page that shows
the setting and the page that shows the detected title hold the text quoted once. -/
theorem heading_text_quoted_once {text encoded : Text} (encodes : Encodes text encoded)
    (nonempty : text ≠ []) (oneLine : '\n' ∉ text)
    (head : ∀ c, text.head? = some c → Unicode.isBlank c = false) :
    (∀ (tables : Tables) (word body : Text), word ≠ [] → (∀ c ∈ word, c.isAlpha = true) →
      tables.settings.find? word = some body →
      (carryOutCommands tables
        ("<h1>@".toList ++ word ++ " ".toList ++ encoded ++ "</h1>".toList)).settings =
          [(Unicode.lowerCase word, quote text)]) ∧
    (∀ (renderer : Renderer) (source word name body : Text) (theme : Theme)
      (given : Option Dictionary), word ≠ [] → (∀ c ∈ word, c.isAlpha = true) →
      Unicode.lowerCase word = name →
      name ∉ ["title", "body", "menu", "targetname", "targetlogo", "name"].map String.toList →
      renderer.defaults.tables.settings.find? word = some body →
      renderer.convert (normalizeLinks renderer.links source) =
        "<h1>@".toList ++ word ++ " ".toList ++ encoded ++ "</h1>".toList →
      (renderer.render ("@".toList ++ name ++ "@".toList) source theme given).html =
        quote text) ∧
    (∀ (renderer : Renderer) (source : Text) (theme : Theme),
      (∀ c, text.head? = some c → c ≠ '@' ∧ c ≠ '~') → '>' ∉ encoded →
      renderer.convert (normalizeLinks renderer.links source) =
        "<h1>".toList ++ encoded ++ "</h1>".toList →
      (renderer.render "@title@".toList source theme none).html = quote text) := by
  refine ⟨?_, ?_, ?_⟩
  · intro tables word body wordNonempty letters known
    exact settings_settingHeading encodes head oneLine wordNonempty letters known
  · rintro renderer source word _ body theme given wordNonempty letters rfl other known converted
    rw [List.map_cons, List.mem_cons, not_or] at other
    exact html_render_settingHeading encodes nonempty oneLine head wordNonempty letters other.1
      other.2 known converted theme given
  · intro renderer source theme noSigil noGreater converted
    have start : ∀ c, text.head? = some c → Unicode.isBlank c = false ∧ c ≠ '@' ∧ c ≠ '~' :=
      fun c first => ⟨head c first, noSigil c first⟩
    exact html_render_titleHeading encodes nonempty start noGreater converted theme

/-- A text that looks like an entity is not decoded a second time, and a quotation mark that stands
as it is gets quoted. -/
theorem heading_text_quoted_once_of_entity_text :
    let text := "&lt;'".toList
    let encoded := "&#038;lt;'".toList
    let renderer : Renderer := { Renderer.usual with links := [], convert := id }
    let theme : Theme := ⟨none, none, none, []⟩
    let given : Dictionary := .ofList [("parent".toList, "<b>".toList)]
    Encodes text encoded ∧ text ≠ [] ∧ '\n' ∉ text ∧
      (∀ c, text.head? = some c → Unicode.isBlank c = false) ∧
      (carryOutCommands Defaults.builtin.tables "<h1>@Parent &#038;lt;'</h1>".toList).settings =
        [("parent".toList, "&amp;lt;&#39;".toList)] ∧
      (renderer.render "@parent@".toList "<h1>@Parent &#038;lt;'</h1>".toList theme
        (some given)).html = "&amp;lt;&#39;".toList ∧
      (renderer.render "@title@".toList "<h1>&#038;lt;'</h1>".toList theme none).html =
        "&amp;lt;&#39;".toList := by
  intro text encoded renderer theme given
  have encodes : Encodes text encoded :=
    .cons (.decimal (by decide) 1) <| .cons (.plain (by decide) (by decide)) <|
      .cons (.plain (by decide) (by decide)) <| .cons (.plain (by decide) (by decide)) <|
      .cons (.plain (by decide) (by decide)) .nil
  have nonempty : text ≠ [] := by decide
  have oneLine : '\n' ∉ text := by decide
  have head : ∀ c, text.head? = some c → Unicode.isBlank c = false := by
    rintro c ⟨⟩
    decide
  have known : Defaults.builtin.tables.settings.find? "Parent".toList =
      some "<!-- @CMD@ @ARGS@ -->".toList := by decide +kernel
  obtain ⟨recorded, shown, titled⟩ := heading_text_quoted_once encodes nonempty oneLine head
  refine ⟨encodes, nonempty, oneLine, head, ?_, ?_, ?_⟩
  · exact recorded Defaults.builtin.tables "Parent".toList _ (by decide) (by decide) known
  · exact shown renderer _ "Parent".toList "parent".toList _ theme (some given) (by decide)
      (by decide) (by decide) (by decide) known (by decide +kernel)
  · exact titled renderer _ theme (by rintro c ⟨⟩; decide) (by decide) (by decide +kernel)

end Folio
