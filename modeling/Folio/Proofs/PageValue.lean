import Folio.Page
import Folio.Proofs.Harvest
import Folio.Proofs.Markup

/-!
# What a page shows for a name

A placeholder in the template of a page shows the value of its name, requoted. The library itself
gives the values of five names. Every other name has the value that the caller, the settings and
the content give: a setting with a text counts before the caller's value and before what is
detected, the title apart.
-/

namespace Folio

namespace Placeholder

open Text

/-- A name of word characters between two `@` is a placeholder. -/
theorem readsAs_placeholder {name : Text} (nonempty : name ≠ [])
    (word : ∀ c ∈ name, Unicode.isWordChar c = true) :
    ReadsAs placeholder? ('@' :: (name ++ ['@'])) name := by
  refine ⟨by simp, ?_⟩
  intro rest
  have read : run Unicode.isWordChar (name ++ '@' :: rest) = (name, '@' :: rest) :=
    run_append_cons word Unicode.isWordChar_at rest
  have split : '@' :: (name ++ ['@']) ++ rest = '@' :: (name ++ '@' :: rest) := by simp
  rw [split, placeholder?, read]
  cases name with
  | nil => exact absurd rfl nonempty
  | cons c name => rfl

theorem inert_placeholder?_of_not_mem {text : Text} (noSign : '@' ∉ text) :
    Inert placeholder? text := by
  have starts : ∀ {text : Text} {value : Text × Text}, placeholder? text = some value →
      ∃ rest, text = ['@'] ++ rest := by
    intro text value found
    unfold placeholder? at found
    split at found
    · next text => exact ⟨text, rfl⟩
    · cases found
  exact (inert_of_not_mem noSign).of_lead starts

/-- A template with one placeholder is filled with the value of its name, and what stands around the
placeholder is kept. -/
theorem fill_append_placeholder_append {before name after : Text} (beforeNoSign : '@' ∉ before)
    (nonempty : name ≠ []) (word : ∀ c ∈ name, Unicode.isWordChar c = true)
    (afterNoSign : '@' ∉ after) (values : Dictionary) (markup : List Text) :
    fill values markup (before ++ '@' :: (name ++ ['@']) ++ after) =
      before ++ value values markup name ++ after := by
  have afterFree := (inert_placeholder?_of_not_mem afterNoSign).itemFree
  rw [fill, substitute, List.append_assoc,
    pieces_append_of_inert (inert_placeholder?_of_not_mem beforeNoSign),
    pieces_append_of_readsAs (readsAs_placeholder nonempty word), pieces_of_itemFree afterFree]
  simp

/-- A template that is one placeholder is filled with the value of its name. -/
theorem fill_placeholder {name : Text} (nonempty : name ≠ [])
    (word : ∀ c ∈ name, Unicode.isWordChar c = true) (values : Dictionary)
    (markup : List Text) :
    fill values markup ('@' :: (name ++ ['@'])) = value values markup name := by
  have filled := fill_append_placeholder_append List.not_mem_nil nonempty word List.not_mem_nil
    values markup
  rwa [List.append_nil, List.append_nil, List.nil_append, List.nil_append] at filled

end Placeholder

/-- The mark of a content is a placeholder. -/
theorem bodyMark_eq : bodyMark = '@' :: ("BODY".toList ++ ['@']) := by
  unfold bodyMark
  simp

namespace Page

/-- The names whose values the library gives. -/
def ownNames : List Text :=
  ["body".toList, "menu".toList, "targetname".toList, "targetlogo".toList, "name".toList]

/-- Every other name keeps the value that the content gives. -/
theorem find?_values {name : Text} (free : name ∉ ownNames) (content : Dictionary)
    (body menu product logo : Text) :
    (values content body menu product logo).find? name = content.find? name := by
  rw [values, Dictionary.find?_insertAll]
  simp only [ownNames, List.mem_cons, List.not_mem_nil, or_false, not_or] at free
  obtain ⟨notBody, notMenu, notProduct, notLogo, notName⟩ := free
  rw [List.lookup_eq_none_iff.2, Option.none_or]
  intro entry member
  simp only [List.reverse_cons, List.reverse_nil, List.nil_append, List.cons_append,
    List.mem_cons, List.not_mem_nil, or_false] at member
  rcases member with rfl | rfl | rfl | rfl | rfl
  · simpa using notName
  · simpa using notLogo
  · simpa using notProduct
  · simpa using notMenu
  · simpa using notBody

theorem find?_values_targetname (content : Dictionary) (body menu product logo : Text) :
    (values content body menu product logo).find? "targetname".toList = some product := by
  rw [values, Dictionary.find?_insertAll]
  rfl

theorem find?_values_name (content : Dictionary) (body menu product logo : Text) :
    (values content body menu product logo).find? "name".toList =
      some ((content.find? "title".toList).getD [] ++ " - ".toList ++ product) := by
  rw [values, Dictionary.find?_insertAll]
  rfl

/-- A placeholder of another name shows the value of the content, requoted. -/
theorem value_of_not_own {name : Text} (free : name ∉ ownNames) (content : Dictionary)
    (body menu product logo : Text) :
    Placeholder.value (values content body menu product logo) markupNames name =
      Entity.requote ((content.find? name).getD []) := by
  have notFinished : name ∉ markupNames := by
    intro member
    apply free
    simp only [markupNames, List.mem_cons, List.not_mem_nil, or_false] at member
    rcases member with rfl | rfl | rfl <;> decide
  have plain : markupNames.contains name = false := by simpa using notFinished
  rw [Placeholder.value, plain, find?_values free]
  rfl

/-- A value that has a text; otherwise what is detected, if anything is. -/
def orDetected (value detected : Option Text) : Option Text :=
  (value.filter fun text => !text.isEmpty).or (detected.or value)

theorem orDetected_none_left (detected : Option Text) : orDetected none detected = detected := by
  simp [orDetected]

theorem orDetected_none_right (value : Option Text) : orDetected value none = value := by
  cases value with
  | none => rfl
  | some text => cases text <;> rfl

theorem orDetected_of_ne_nil {text : Text} (nonempty : text ≠ []) (detected : Option Text) :
    orDetected (some text) detected = some text := by
  simp [orDetected, Option.filter_some, nonempty]

theorem orDetected_nil (detected : Text) : orDetected (some []) (some detected) = some detected :=
  rfl

theorem find?_fillIn (values : Dictionary) (name other : Text) (detected : Option Text) :
    (fillIn values name detected).find? other =
      if other = name then orDetected (values.find? name) detected
      else values.find? other := by
  by_cases same : other = name
  · subst same
    rw [if_pos rfl]
    unfold fillIn
    cases detected with
    | none => rw [orDetected_none_right]
    | some value =>
      cases found : values.find? other with
      | none => simp [orDetected_none_left, Dictionary.find?_insert]
      | some text =>
        by_cases empty : text = []
        · subst empty
          simp [orDetected_nil, Dictionary.find?_insert]
        · simp [orDetected_of_ne_nil empty, empty, found]
  · rw [if_neg same]
    unfold fillIn
    cases detected with
    | none => rfl
    | some value =>
      simp only
      split
      · rw [Dictionary.find?_insert, if_neg same]
      · rfl

/-- The argument of the last setting of a name, if there is one. -/
def lastSetting? (settings : List (Text × Text)) (name : Text) : Option Text :=
  settings.reverse.lookup name

/-- What is detected for a name in a page. Only the title and the description are. -/
def detected? (html name : Text) : Option Text :=
  if name = "title".toList then (Metadata.detect html).title
  else if name = "description".toList then (Metadata.detect html).description
  else none

/-- The value of a name that is not one of the library's own. If the caller gives values, a setting
counts before them, but the title is the caller's name for the page. If not, what is detected
counts unless a setting gives a text. -/
def resolve? (given : Option Dictionary) (outcome : Outcome) (name : Text) : Option Text :=
  match given with
  | some given =>
    if name = "title".toList then some ((given.find? "name".toList).getD [])
    else (lastSetting? outcome.settings name).or (given.find? name)
  | none => orDetected (lastSetting? outcome.settings name) (detected? outcome.html name)

/-- The order in which the values of a page are put together gives every name the value that it
resolves to. -/
theorem find?_contentValues_eq_resolve? (given : Option Dictionary) (outcome : Outcome)
    (name : Text) :
    (contentValues given outcome).find? name = resolve? given outcome name := by
  have settings (lower : Dictionary) (other : Text) :
      (lower.insertAll outcome.settings).find? other =
        (lastSetting? outcome.settings other).or (lower.find? other) :=
    Dictionary.find?_insertAll lower outcome.settings other
  cases given with
  | some given =>
    simp only [contentValues, resolve?, Dictionary.find?_insert, Option.getD_some, settings]
  | none =>
    simp only [contentValues, resolve?, find?_fillIn, Option.getD_none, settings,
      Dictionary.find?_empty, Option.or_none, detected?]
    -- The title is filled in first and the description after it; neither changes the other.
    by_cases isTitle : name = "title".toList
    · subst isTitle
      rw [if_neg (by decide), if_pos rfl, if_pos rfl]
    · rw [if_neg isTitle, if_neg isTitle]
      by_cases isDescription : name = "description".toList
      · subst isDescription
        rw [if_pos rfl, if_pos rfl, if_neg (by decide)]
      · rw [if_neg isDescription, if_neg isDescription, orDetected_none_right]

/-- What a page shows for the name of a placeholder: for the library's own names what the library
makes, for every other name the value that it resolves to, requoted. -/
def shown (given : Option Dictionary) (outcome : Outcome) (body menu product logo name : Text) :
    Text :=
  if name = "body".toList then body
  else if name = "menu".toList then menu
  else if name = "targetlogo".toList then logo
  else if name = "targetname".toList then Entity.requote product
  else if name = "name".toList then
    Entity.requote
      ((resolve? given outcome "title".toList).getD [] ++ " - ".toList ++ product)
  else Entity.requote ((resolve? given outcome name).getD [])

/-- The values of a page make its placeholders show what they should. -/
theorem value_values (given : Option Dictionary) (outcome : Outcome)
    (body menu product logo : Text) :
    Placeholder.value (values (contentValues given outcome) body menu product logo) markupNames =
      shown given outcome body menu product logo := by
  funext name
  unfold shown
  split
  · next isBody =>
    subst isBody
    rw [Placeholder.value, find?_values_body]
    rfl
  split
  · next isMenu =>
    subst isMenu
    rw [Placeholder.value, find?_values_menu]
    rfl
  split
  · next isLogo =>
    subst isLogo
    rw [Placeholder.value, find?_values_targetlogo]
    rfl
  split
  · next isProduct =>
    subst isProduct
    rw [Placeholder.value, find?_values_targetname]
    rfl
  split
  · next isName =>
    subst isName
    rw [Placeholder.value, find?_values_name, find?_contentValues_eq_resolve?]
    rfl
  · next notBody notMenu notLogo notProduct notName =>
    have free : name ∉ ownNames := by
      simp only [ownNames, List.mem_cons, List.not_mem_nil, or_false, not_or]
      exact ⟨notBody, notMenu, notProduct, notLogo, notName⟩
    rw [value_of_not_own free, find?_contentValues_eq_resolve?]

/-- The last text that a setting records is the value of its name, whatever the caller gives. -/
theorem find?_contentValues {outcome : Outcome} {name text : Text}
    (recorded : outcome.settings.reverse.lookup name = some text) (nonempty : text ≠ [])
    (notTitle : name ≠ "title".toList) (given : Option Dictionary) :
    (contentValues given outcome).find? name = some text := by
  rw [find?_contentValues_eq_resolve?]
  cases given with
  | none => rw [resolve?, lastSetting?, recorded, orDetected_of_ne_nil nonempty]
  | some given => rw [resolve?, if_neg notTitle, lastSetting?, recorded, Option.some_or]

/-- Where the caller gives no values and no setting records a title, a page has the title that is
detected. -/
theorem find?_contentValues_title {outcome : Outcome} {title : Text}
    (unrecorded : outcome.settings.reverse.lookup "title".toList = none)
    (detected : (Metadata.detect outcome.html).title = some title) :
    (contentValues none outcome).find? "title".toList = some title := by
  rw [find?_contentValues_eq_resolve?, resolve?, lastSetting?, unrecorded, orDetected_none_left,
    detected?, if_pos rfl, detected]

end Page

/-- A template that is one placeholder declares nothing. -/
theorem harvest_placeholder {name : Text} (word : ∀ c ∈ name, Unicode.isWordChar c = true) :
    harvest ('@' :: (name ++ ['@'])) = ⟨'@' :: (name ++ ['@']), [], []⟩ := by
  have noBegin : '<' ∉ '@' :: (name ++ ['@']) := by
    have inName : '<' ∉ name := fun member => absurd (word _ member) (by decide)
    simp [inName]
  exact harvest_of_not_mem noBegin

/-- A page whose template is one placeholder shows the value of its name, requoted. -/
theorem Renderer.html_render_placeholder {name : Text} (nonempty : name ≠ [])
    (word : ∀ c ∈ name, Unicode.isWordChar c = true) (free : name ∉ Page.ownNames)
    (renderer : Renderer) (source : Text) (theme : Theme) (given : Option Dictionary) :
    (renderer.render ('@' :: (name ++ ['@'])) source theme given).html =
      Entity.requote (((Page.contentValues given
        (carryOutCommands renderer.defaults.tables
          (renderer.convert (normalizeLinks renderer.links source)))).find? name).getD []) := by
  simp only [Renderer.render, harvest_placeholder word, Tables.declareAll, List.foldl_nil,
    Placeholder.fill_placeholder nonempty word, Page.value_of_not_own free]

/-- A page whose template is the placeholder of the body shows what the source comes to, with the
notices of its commands and of the menu. -/
theorem Renderer.render_body (renderer : Renderer) (source : Text) (theme : Theme)
    (given : Option Dictionary) :
    let tables := renderer.defaults.tables
    let outcome :=
      carryOutCommands tables (renderer.convert (normalizeLinks renderer.links source))
    let page := renderer.render "@body@".toList source theme given
    page.html = (routeRegions outcome.html).wrap tables.boxes ∧
      page.notices = outcome.notices ++ (renderMenu tables.menus theme.menu).notices := by
  intro tables outcome page
  have isPlaceholder : "@body@".toList = '@' :: ("body".toList ++ ['@']) := by simp
  have nonempty : "body".toList ≠ [] := by simp
  have word : ∀ c ∈ "body".toList, Unicode.isWordChar c = true := by decide
  simp only [page, isPlaceholder, Renderer.render, harvest_placeholder word, Tables.declareAll,
    List.foldl_nil, Placeholder.fill_placeholder nonempty word, List.nil_append]
  constructor
  · rw [Placeholder.value, Page.find?_values_body]
    rfl
  · rfl

/-- A page is its template, without the declarations, with something shown for every placeholder:
for the library's own names what the library makes, for every other name the value that it resolves
to, requoted. The title of the page is the value of `title` before it is requoted. -/
theorem Renderer.render_resolves (renderer : Renderer) (template source : Text) (theme : Theme)
    (given : Option Dictionary) :
    let harvested := harvest template
    let tables := renderer.defaults.tables.declareAll harvested.declarations
    let outcome :=
      carryOutCommands tables (renderer.convert (normalizeLinks renderer.links source))
    let page := renderer.render template source theme given
    let title := Page.resolve? given outcome "title".toList
    page.title = title ∧
      ∃ shown : Text → Text,
        page.html = Text.substitute Placeholder.placeholder? shown harvested.template ∧
        shown "body".toList = (routeRegions outcome.html).wrap tables.boxes ∧
        shown "menu".toList = (renderMenu tables.menus theme.menu).html ∧
        shown "targetlogo".toList = Page.logoImage renderer.logoAddress theme ∧
        shown "targetname".toList = Entity.requote (Page.product theme) ∧
        shown "name".toList =
          Entity.requote (title.getD [] ++ " - ".toList ++ Page.product theme) ∧
        ∀ name, name ∉ Page.ownNames →
          shown name = Entity.requote ((Page.resolve? given outcome name).getD []) := by
  intro harvested tables outcome page title
  have content := Page.find?_contentValues_eq_resolve? given outcome
  refine ⟨content "title".toList, Placeholder.value _ Page.markupNames, rfl, ?body, ?menu, ?logo,
    ?product, ?name, ?others⟩
  case body =>
    rw [Placeholder.value, Page.find?_values_body]
    rfl
  case menu =>
    rw [Placeholder.value, Page.find?_values_menu]
    rfl
  case logo =>
    rw [Placeholder.value, Page.find?_values_targetlogo]
    rfl
  case product =>
    rw [Placeholder.value, Page.find?_values_targetname]
    rfl
  case name =>
    rw [Placeholder.value, Page.find?_values_name, content]
    rfl
  case others =>
    intro name free
    rw [Page.value_of_not_own free, content]

/-- A title setting without a text gives way to what is detected. Where the caller gives values,
nothing is detected, and a page without a name has an empty title. -/
example :
    let outcome : Outcome := ⟨"<h1>Guide</h1>".toList, [("title".toList, [])], []⟩
    Page.resolve? none outcome "title".toList = some "Guide".toList ∧
      Page.resolve? (some .empty) outcome "title".toList = some [] := by
  decide +kernel

end Folio
