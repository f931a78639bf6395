import Folio.Link.Line
import Folio.Logo
import Folio.Markdown.Html
import Folio.Menu.Render
import Folio.Metadata
import Folio.Region
import Folio.Table.Builtin
import Folio.Theme

/-!
# Making pages

A page is made from a template and a source. The declarations are cut out of the template; the
source is converted, its commands are carried out and its regions are sorted; the menu is
written. All of that goes into the placeholders of the template.
-/

namespace Folio

/-- What makes pages: the default bodies, the link rules, the converter of sources and the
address of a logo. -/
structure Renderer where
  defaults : Defaults
  links : List LinkRule
  convert : Text → Text
  logoAddress : Text → Text

namespace Renderer

/-- The renderer of a site that changes nothing but the default bodies. -/
def ofDefaults (defaults : Defaults) : Renderer where
  defaults := defaults
  links := LinkRule.builtin
  convert := Markdown.Converter.usual.convert
  logoAddress := Folio.logoAddress

/-- The renderer of a site that changes nothing. -/
def usual : Renderer := ofDefaults .builtin

end Renderer

/-- A finished page. -/
structure Page where
  html : Text
  title : Option Text
  notices : List Notice
deriving DecidableEq, Repr

namespace Page

/-- The product name of a theme without one. -/
def defaultProduct : Text := "Documentation".toList

/-- The placeholders of a template that hold finished markup. -/
def markupNames : List Text := ["body".toList, "menu".toList, "targetlogo".toList]

/-- Sets a value that was detected, unless there is a value that is not empty. -/
def fillIn (values : Dictionary) (name : Text) (detected : Option Text) : Dictionary :=
  match detected with
  | some value =>
    if ((values.find? name).getD []).isEmpty then values.insert name value else values
  | none => values

/-- The values that the caller, the settings and the content give. With values of the caller
the title is the caller's name for the page; without them title and description are detected. -/
def contentValues (given : Option Dictionary) (outcome : Outcome) : Dictionary :=
  let values := (given.getD .empty).insertAll outcome.settings
  match given with
  | some given => values.insert "title".toList ((given.find? "name".toList).getD [])
  | none =>
    let metadata := Metadata.detect outcome.html
    fillIn (fillIn values "title".toList metadata.title) "description".toList
      metadata.description

/-- The product name of a theme. -/
def product (theme : Theme) : Text :=
  theme.name.getD defaultProduct

/-- The image of a theme's logo; only a theme with a documentation logo has one. -/
def logoImage (logoAddress : Text → Text) (theme : Theme) : Text :=
  match theme.docsLogo with
  | some docsLogo =>
    "<img src=\"".toList ++ Entity.requote (logoAddress (theme.logo.getD docsLogo)) ++
      "\" />".toList
  | none => []

/-- The values for the placeholders of the template. -/
def values (content : Dictionary) (body menu product logo : Text) : Dictionary :=
  let title := (content.find? "title".toList).getD []
  content.insertAll
    [("body".toList, body),
     ("menu".toList, menu),
     ("targetname".toList, product),
     ("targetlogo".toList, logo),
     ("name".toList, title ++ " - ".toList ++ product)]

end Page

/-- Makes a page of a source. -/
def Renderer.render (renderer : Renderer) (template source : Text) (theme : Theme)
    (given : Option Dictionary) : Page :=
  let harvested := harvest template
  let tables := renderer.defaults.tables.declareAll harvested.declarations
  let converted := renderer.convert (normalizeLinks renderer.links source)
  let outcome := carryOutCommands tables converted
  let content := Page.contentValues given outcome
  let body := (routeRegions outcome.html).wrap tables.boxes
  let menu := renderMenu tables.menus theme.menu
  { html :=
      Placeholder.fill
        (Page.values content body menu.html (Page.product theme)
          (Page.logoImage renderer.logoAddress theme))
        Page.markupNames harvested.template
    title := content.find? "title".toList
    notices := harvested.notices ++ outcome.notices ++ menu.notices }

end Folio
