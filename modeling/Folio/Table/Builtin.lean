import Folio.Table.Basic

/-!
# Built-in bodies

The defaults of a site that configures nothing: three settings, two video macros and four menu
templates.
-/

namespace Folio.Defaults

/-- The body of settings that leave a comment in the page. -/
def settingComment : Text := "<!-- @CMD@ @ARGS@ -->".toList

/-- The body of a macro that embeds a video from an address followed by its key. -/
def videoFrame (address : String) : Text :=
  "<div class=\"embed video\"><iframe src=\"".toList ++ address.toList ++
    "@ARGS@\" frameborder=\"0\" allowfullscreen></iframe></div>".toList

/-- The settings of every site. -/
def builtinSettings : List (Text × Text) :=
  [("parent".toList, settingComment),
   ("short".toList, settingComment),
   ("description".toList, "<!-- desc -->".toList)]

/-- The macros of every site. -/
def builtinMacros : List (Text × Text) :=
  [("youtube".toList, videoFrame "https://www.youtube-nocookie.com/embed/"),
   ("vimeo".toList, videoFrame "https://player.vimeo.com/video/")]

/-- The menu templates of every site. -/
def builtinMenus : List (Text × Text) :=
  [("item".toList, "<a class=\"item\" href=\"@LINK@\">@NAME@</a>".toList),
   ("divider".toList, "<div class=\"divider\"></div>".toList),
   ("top-dropdown".toList,
     ("<div class=\"ui dropdown item\"><span class=\"text\">@NAME@</span>" ++
       "<div class=\"menu\">@ITEMS@</div></div>").toList),
   ("inner-dropdown".toList,
     ("<div class=\"item\"><span class=\"text\">@NAME@</span>" ++
       "<div class=\"menu\">@ITEMS@</div></div>").toList)]

/-- The defaults of a site that configures nothing. -/
def builtin : Defaults :=
  ((empty.insertAll .settings builtinSettings).insertAll .macros builtinMacros).insertAll
    .menus builtinMenus

end Folio.Defaults
