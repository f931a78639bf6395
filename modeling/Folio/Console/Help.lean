import Folio.Console.Request

/-!
# Help

The help pages list what the program or a command takes. Explanations stand in one column, two
spaces after the longest entry.
-/

namespace Folio.Console

/-- A section of a help page: its title, and its entries with their explanations. -/
structure HelpSection where
  title : Text
  rows : List (Text × Text)
deriving Repr

/-- A text in a column: its lines after the first one start with so many spaces. -/
def inColumn (column : Nat) (text : Text) : Text :=
  Text.replaceAll ['\n'] ('\n' :: List.replicate column ' ') text

/-- Lines with the explanations of a section in one column. -/
def HelpSection.render (helpSection : HelpSection) : Text :=
  let width := (helpSection.rows.map fun (entry, _) => entry.length).foldl max 0
  helpSection.title ++ ":\n".toList ++
    helpSection.rows.flatMap fun (entry, about) =>
      "  ".toList ++ entry ++ List.replicate (width - entry.length + 2) ' ' ++
        inColumn (width + 4) about ++ ['\n']

/-- The entry of an option. -/
def OptionForm.entry {κ : Type} (form : OptionForm κ) : Text :=
  (match form.letter with
    | some letter => ['-', letter, ',', ' ']
    | none => "    ".toList) ++
  "--".toList ++ form.name ++
  (match form.valueName with
    | some valueName => " <".toList ++ valueName ++ ['>']
    | none => [])

/-- The section of options. -/
def optionSection {κ : Type} (forms : List (OptionForm κ)) : HelpSection :=
  ⟨"Options".toList, forms.map fun form => (form.entry, form.about)⟩

/-- A help page. -/
structure HelpPage where
  about : Text
  usage : Text
  sections : List HelpSection
deriving Repr

/-- A help page as text. -/
def HelpPage.render (page : HelpPage) : Text :=
  page.about ++ "\n\nUsage: ".toList ++ page.usage ++ ['\n'] ++
    page.sections.flatMap fun helpSection => '\n' :: helpSection.render

/-- What `render` does. -/
def aboutRender : Text := "Render markdown files into HTML pages".toList

/-- What `check` does. -/
def aboutCheck : Text := "Validate the configuration file".toList

/-- What `help` does. -/
def aboutHelp : Text := "Print this message or the help of the given subcommand(s)".toList

/-- The option of the template with the value of its variable. -/
def templateFormWith (template : Option Text) : OptionForm OptionKey :=
  { templateForm with
    about :=
      templateForm.about ++ " [env: ".toList ++ templateVariable ++ ['='] ++
        template.getD [] ++ [']'] }

/-- The help page on a topic, for a given value of the template variable. -/
def helpPage (template : Option Text) : Topic → HelpPage
  | .program =>
    ⟨"Macro-driven documentation page renderer - CLI".toList, "kdocs <COMMAND>".toList,
      [⟨"Commands".toList,
          [("render".toList, aboutRender), ("check".toList, aboutCheck),
           ("help".toList, aboutHelp)]⟩,
       optionSection programForms]⟩
  | .render =>
    ⟨aboutRender, "kdocs render [OPTIONS] <SOURCES>...".toList,
      [⟨"Arguments".toList, [("<SOURCES>...".toList, "Markdown files to render".toList)]⟩,
       optionSection
        [configForm, templateFormWith template, outputDirectoryForm, titleForm, verboseForm,
         helpForm]]⟩
  | .check => ⟨aboutCheck, "kdocs check [OPTIONS]".toList, [optionSection checkForms]⟩
  | .help =>
    ⟨aboutHelp, "kdocs help [COMMAND]...".toList,
      [⟨"Arguments".toList,
          [("[COMMAND]...".toList, "Print help for the subcommand(s)".toList)]⟩]⟩

/-- The version of the program. -/
def versionLine : Text := "kdocs 0.1.0\n".toList

/-- What is reported when the arguments are not in order. -/
def misuseNotice : Text :=
  "error: the arguments are not in order\n\nFor more information, try '--help'.".toList

end Folio.Console
