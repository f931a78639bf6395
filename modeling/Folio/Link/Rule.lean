import Folio.Entity
import Folio.Pattern.Program
import Folio.Pattern.Reader
import Folio.Text.Scan

/-!
# Link rules

A link rule takes parts out of a link and puts them into a command. In the command `$` and a
number stand for a part: `$0` for the whole of what was matched, `$1` for the first group, and
so on. A part that does not exist stands for nothing.
-/

namespace Folio

/-- A rule: what it takes out of a link that it fits, and the command it makes. -/
structure LinkRule where
  captures? : Text → Option Captures
  command : Text

namespace LinkRule

/-- Recognises a reference to a part and gives the digits of its number. -/
def reference? : Text.Recogniser Text
  | '$' :: text =>
    match Text.run Unicode.isDecimalDigit text with
    | ([], _) => none
    | (digits, after) => some (digits, after)
  | _ => none

/-- The number of a part that digits write. Only ASCII digits write numbers, and a number that does
not fit into 64 bits is none. -/
def partNumber? (digits : Text) : Option Nat :=
  (Entity.number? digits).filter fun number => number < UInt64.size

/-- The part that digits stand for. -/
def part (captures : Captures) (digits : Text) : Text :=
  (((partNumber? digits).bind fun index => captures[index]?).join).getD []

/-- A command with its references replaced. -/
def expandWith (captures : Captures) (command : Text) : Text :=
  Text.substitute reference? (part captures) command

/-- The command that a rule makes of a link, if the rule fits. -/
def expand? (rule : LinkRule) (link : Text) : Option Text :=
  (rule.captures? link).map fun captures => expandWith captures rule.command

/-- The rule of a written pattern. -/
def ofPattern (pattern command : Text) : Except PatternFault LinkRule := do
  let (pattern, groups) ← Pattern.ofText pattern
  .ok ⟨pattern.captures? groups, command⟩

/-- The rule for links to a site: after the address of the site comes a key, the longest run of
characters of a class. -/
def ofSite (site : Text) (inKey : Char → Bool) (command : Text) : LinkRule where
  captures? link :=
    match (Text.dropLead? site link).map (List.takeWhile inKey) with
    | some (first :: rest) => some [some (site ++ first :: rest), some (first :: rest)]
    | _ => none
  command := command

/-- The command of a rule for video links. -/
def videoCommand (macroName : String) : Text :=
  "### @".toList ++ macroName.toList ++ " $1".toList

/-- The rules for the links of two video sites. -/
def builtin : List LinkRule :=
  [ofSite "vimeo.com/".toList Unicode.isDecimalDigit (videoCommand "vimeo"),
   ofSite "youtu.be/".toList Unicode.isWordChar (videoCommand "youtube"),
   ofSite "www.youtube.com/watch?v=".toList Unicode.isWordChar (videoCommand "youtube")]

end LinkRule

end Folio
