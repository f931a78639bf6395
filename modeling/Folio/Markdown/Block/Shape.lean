import Folio.Markdown.Block.Basic
import Folio.Markdown.Tag

/-!
# Shapes of lines

What a line can be recognised as from its text after the indentation: a heading, a rule, the
start or the end of fenced code, the start of raw markup, a list item. The text goes on to the
end of the document.
-/

namespace Folio.Markdown.Shape

/-- The level of a heading that starts with number signs, and what follows them. -/
def heading? (text : Text) : Option (Nat × Text) :=
  let (signs, rest) := Text.run (· == '#') text
  if 1 ≤ signs.length ∧ signs.length ≤ 6 ∧ rest.head?.all isAsciiBlank then
    some (signs.length, rest)
  else none

/-- The text of a heading without the number signs that close it. They are set off by a space,
unless there is nothing else. -/
def headingText (line : Text) : Text :=
  let text := Text.dropRightWhile (· == ' ') line
  let unclosed := Text.dropRightWhile (· == '#') text
  let trimmed := Text.dropRightWhile (· == ' ') unclosed
  if unclosed.isEmpty || trimmed.length < unclosed.length then trimmed else text

/-- The level of a heading whose underline a line is, and what follows the line. -/
def underline? : Text → Option (Nat × Text)
  | '=' :: text => (blankLine? (text.dropWhile (· == '='))).map (1, ·)
  | '-' :: text => (blankLine? (text.dropWhile (· == '-'))).map (2, ·)
  | _ => none

/-- What follows a rule: a line of three or more equal signs with nothing but blanks between. -/
def rule? : Text → Option Text
  | [] => none
  | c :: text =>
    let (line, _, rest) := cutLine (c :: text)
    if (c == '*' || c == '-' || c == '_') && line.all (fun d => d == c || isSpaceOrTab d) &&
        3 ≤ (line.filter (· == c)).length then
      some rest
    else none

/-- The fence of code: its sign and its length. -/
structure Fence where
  sign : Char
  length : Nat
deriving DecidableEq, Repr

/-- The fence that starts code, and what follows it. After backquotes there are no others up to
the next newline. -/
def fence? : Text → Option (Fence × Text)
  | [] => none
  | c :: text =>
    if c == '`' || c == '~' then
      let (signs, rest) := Text.run (· == c) (c :: text)
      if signs.length < 3 || (c == '`' && (cutAtNewline rest).1.contains '`') then none
      else some (⟨c, signs.length⟩, rest)
    else none

/-- What follows a fence that ends code, from the line ending on. The end of the document ends
code too. -/
def Fence.closed? (fence : Fence) (text : Text) : Option Text :=
  if text.isEmpty then some []
  else
    let (signs, rest) := Text.run (· == fence.sign) text
    let rest := rest.dropWhile (· == ' ')
    if fence.length ≤ signs.length && endsLine rest then some rest else none

/-- Whether a text starts with a blank or is at the end of a line. -/
def isSetOff (text : Text) : Bool :=
  endsLine text || text.head?.any isSpaceOrTab

/-- The mark of a list item and its length. -/
def item? : Text → Option (ListMark × Nat)
  | [] => none
  | c :: text =>
    if c == '-' || c == '+' || c == '*' then
      if isSetOff text then some (.bullet c, 1) else none
    else
      let (digits, rest) := Text.run Char.isDigit (c :: text)
      match rest, Entity.number? digits with
      | sign :: rest, some start =>
        if digits.length ≤ 9 && (sign == '.' || sign == ')') && isSetOff rest then
          some (.numbered sign start, digits.length + 1)
        else none
      | _, _ => none

/-- Elements whose content is taken as it stands. -/
def verbatimTags : List String := ["pre", "style", "script", "textarea"]

/-- Elements that start a block of raw markup wherever they stand at the start of a line. -/
def blockTags : List String :=
  ["address", "article", "aside", "base", "basefont", "blockquote", "body", "caption", "center",
   "col", "colgroup", "dd", "details", "dialog", "dir", "div", "dl", "dt", "fieldset",
   "figcaption", "figure", "footer", "form", "frame", "frameset", "h1", "h2", "h3", "h4", "h5",
   "h6", "head", "header", "hr", "html", "iframe", "legend", "li", "link", "main", "menu",
   "menuitem", "nav", "noframes", "ol", "optgroup", "option", "p", "param", "search", "section",
   "summary", "table", "tbody", "td", "tfoot", "th", "thead", "title", "tr", "track", "ul"]

/-- Whether a text goes on after a tag name with a blank, the end of a line or a closing angle
bracket. -/
def endsTagName (text : Text) : Bool :=
  text.head?.all fun c => isAsciiBlank c || c == '>'

/-- What follows a word in a text, whatever the case of its ASCII letters. -/
def dropWord? (word : String) (text : Text) : Option Text :=
  let length := word.length
  if (text.take length).map Char.toLower = word.toList then some (text.drop length) else none

/-- The mark that ends a block of raw markup, where the start of the block tells it. -/
def rawMark? : Text → Option Text
  | '<' :: text =>
    match verbatimTags.find? fun tag => (dropWord? tag text).any endsTagName with
    | some tag => some ("</".toList ++ tag.toList ++ ['>'])
    | none =>
      if Text.startsWith "!--".toList text then some "-->".toList
      else if Text.startsWith "?".toList text then some "?>".toList
      else if Text.startsWith "![CDATA[".toList text then some "]]>".toList
      else
        match text with
        | '!' :: c :: _ => if c.isAlpha then some ['>'] else none
        | _ => none
  | _ => none

/-- Whether a text starts with the tag of an element that starts a block of raw markup. -/
def startsBlockTag : Text → Bool
  | '<' :: text =>
    let inner := (Text.dropLead? ['/'] text).getD text
    let (name, after) := Text.run Char.isAlphanum inner
    blockTags.any (·.toList == name.map Char.toLower) &&
      (endsTagName after || Text.startsWith "/>".toList after)
  | _ => false

/-- Whether a line is a single tag. -/
def isLoneTag : Text → Bool
  | '<' :: text =>
    match Tag.tag? (fun _ => none) text with
    | some (_, after) => (blankLine? after).isSome
    | none => false
  | _ => false

/-- Whether a line of raw markup starts that ends a paragraph. -/
def startsRaw (text : Text) : Bool :=
  (rawMark? text).isSome || startsBlockTag text

/-- Whether a line starts a block that ends the paragraph before it. A line inside all containers
of a paragraph does so as a list item only if the item is not empty and not numbered from
anything but one. -/
def startsBlock (inside inTable : Bool) (text : Text) : Bool :=
  endsLine text || (rule? text).isSome || (heading? text).isSome || (fence? text).isSome ||
    text.head? == some '>' || startsRaw text ||
    match item? text with
    | none => false
    | some (mark, length) =>
      !inside || inTable ||
        ((blankLine? (text.drop length)).isNone &&
          match mark with
          | .bullet _ => true
          | .numbered _ start => start == 1)

end Folio.Markdown.Shape
