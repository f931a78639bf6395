import Folio.Markdown.Document
import Folio.Text.Utf8

/-!
# Markdown as a page

A document is written block by block. A block that must start on a line of its own looks at
whether the text before it ended with a line ending. Raw markup is written as text where the
converter is told so, so that authors cannot produce markup of their own.
-/

namespace Folio.Markdown

/-- How a document is converted. -/
structure Converter where
  /-- Whether raw markup is written as text. -/
  sanitize : Bool
  /-- Whether quotation marks, dashes and ellipses become typographic ones. -/
  smart : Bool
deriving DecidableEq, Repr

/-- The usual converter does both. -/
def Converter.usual : Converter := ⟨true, true⟩

namespace Html

/-- A character of running text. -/
def bodyChar : Char → Text
  | '&' => "&amp;".toList
  | '<' => "&lt;".toList
  | '>' => "&gt;".toList
  | c => [c]

/-- Running text. -/
def body (text : Text) : Text :=
  text.flatMap bodyChar

/-- Text inside the value of an attribute. -/
def inAttribute (text : Text) : Text :=
  Entity.quote text

/-- An octet of an address that may not stand in it as it is. -/
def percent (octet : UInt8) : Text :=
  let digit (n : Nat) : Char :=
    if n < 10 then Char.ofNat ('0'.toNat + n) else Char.ofNat ('A'.toNat + (n - 10))
  ['%', digit (octet.toNat / 16), digit (octet.toNat % 16)]

/-- A character of an address. -/
def addressChar (c : Char) : Text :=
  if c.isAlphanum || "!#$%()*+,-./:;=?@^_~".toList.contains c then [c]
  else if c = '&' then "&amp;".toList
  else if c = '\'' then "&#x27;".toList
  else (Text.utf8Char c).flatMap percent

/-- An address inside the value of an attribute. -/
def address (text : Text) : Text :=
  text.flatMap addressChar

/-- The title of a link or an image as an attribute, if there is one. -/
def titleAttribute (title : Text) : Text :=
  if title.isEmpty then [] else "\" title=\"".toList ++ inAttribute title

/-- The element of a kind of emphasis. -/
def element : Emphasis → Text
  | .light => "em".toList
  | .strong => "strong".toList
  | .struck => "del".toList

mutual

/-- A part of running text as the alternative text of an image. -/
def plain : Inline → Text
  | .text content => inAttribute content
  | .code content => inAttribute content
  | .raw content => inAttribute content
  | .softBreak => [' ']
  | .hardBreak => [' ']
  | .emphasis _ children => plainAll children
  | .link _ children => plainAll children
  | .image _ children => plainAll children

/-- Parts of running text as the alternative text of an image. -/
def plainAll : List Inline → Text
  | [] => []
  | inline :: rest => plain inline ++ plainAll rest

end

mutual

/-- A part of running text. -/
def inline (sanitize : Bool) : Inline → Text
  | .text content => body content
  | .code content => "<code>".toList ++ body content ++ "</code>".toList
  | .raw content => if sanitize then body content else content
  | .softBreak => ['\n']
  | .hardBreak => "<br />\n".toList
  | .emphasis kind children =>
    "<".toList ++ element kind ++ ">".toList ++ inlineAll sanitize children ++ "</".toList ++
      element kind ++ ">".toList
  | .link target children =>
    "<a href=\"".toList ++ address target.address ++ titleAttribute target.title ++
      "\">".toList ++ inlineAll sanitize children ++ "</a>".toList
  | .image target children =>
    "<img src=\"".toList ++ address target.address ++ "\" alt=\"".toList ++ plainAll children ++
      titleAttribute target.title ++ "\" />".toList

/-- Parts of running text. -/
def inlineAll (sanitize : Bool) : List Inline → Text
  | [] => []
  | first :: rest => inline sanitize first ++ inlineAll sanitize rest

end

/-- Whether a text that follows `written` starts a line, if one that followed what was before it
would have. -/
def startsLine (before : Bool) (written : Text) : Bool :=
  match written.getLast? with
  | none => before
  | some c => c == '\n'

/-- A text on a line of its own. -/
def onLine (before : Bool) (text : Text) : Text :=
  if before then text else '\n' :: text

/-- The checkbox of a task. -/
def checkbox (isChecked : Bool) : Text :=
  if isChecked then "<input disabled=\"\" type=\"checkbox\" checked=\"\"/>\n".toList
  else "<input disabled=\"\" type=\"checkbox\"/>\n".toList

/-- The opening tag of a list. -/
def listStart : ListMark → Text
  | .bullet _ => "<ul>\n".toList
  | .numbered _ start =>
    if start = 1 then "<ol>\n".toList
    else "<ol start=\"".toList ++ Text.ofNat start ++ "\">\n".toList

/-- The closing tag of a list. -/
def listEnd : ListMark → Text
  | .bullet _ => "</ul>\n".toList
  | .numbered _ _ => "</ol>\n".toList

/-- The opening tag of code. The first word after a fence names the language. -/
def codeStart (info : Option Text) : Text :=
  let language := (info.getD []).takeWhile (· ≠ ' ')
  if language.isEmpty then "<pre><code>".toList
  else "<pre><code class=\"language-".toList ++ inAttribute language ++ "\">".toList

/-- The end of the opening tag of a table cell. -/
def cellStart : Alignment → Text
  | .unset => ">".toList
  | .left => " style=\"text-align: left\">".toList
  | .center => " style=\"text-align: center\">".toList
  | .right => " style=\"text-align: right\">".toList

/-- The cells of a row of a table. -/
def cells (sanitize : Bool) (tag : Text) : List Alignment → List (List Inline) → Text
  | alignment :: alignments, cell :: rest =>
    "<".toList ++ tag ++ cellStart alignment ++ inlineAll sanitize cell ++ "</".toList ++ tag ++
      ">".toList ++ cells sanitize tag alignments rest
  | _, _ => []

mutual

/-- A block after a text; `before` tells whether the block starts a line. -/
def block (sanitize tight before : Bool) : Block (List Inline) → Text
  | .paragraph isChecked content =>
    let inner := (isChecked.map checkbox).getD [] ++ inlineAll sanitize content
    if tight then inner
    else onLine before ("<p>".toList ++ inner ++ "</p>\n".toList)
  | .heading level isChecked content =>
    onLine before
      ("<h".toList ++ Text.ofNat level ++ ">".toList ++ (isChecked.map checkbox).getD [] ++
        inlineAll sanitize content ++ "</h".toList ++ Text.ofNat level ++ ">\n".toList)
  | .checkbox isChecked => checkbox isChecked
  | .code info content =>
    onLine before (codeStart info ++ body content ++ "</code></pre>\n".toList)
  | .raw content => if sanitize then body content else content
  | .rule => onLine before "<hr />\n".toList
  | .quote blocks =>
    onLine before
      ("<blockquote>\n".toList ++ blockAll sanitize false true blocks ++
        "</blockquote>\n".toList)
  | .list mark loose items =>
    onLine before (listStart mark ++ itemAll sanitize (!loose) items ++ listEnd mark)
  | .table alignments head rows =>
    "<table><thead><tr>".toList ++ cells sanitize "th".toList alignments head ++
      "</tr></thead><tbody>\n".toList ++
      rows.flatMap (fun row =>
        "<tr>".toList ++ cells sanitize "td".toList alignments row ++ "</tr>\n".toList) ++
      "</tbody></table>\n".toList

/-- Blocks one after another. -/
def blockAll (sanitize tight before : Bool) : List (Block (List Inline)) → Text
  | [] => []
  | first :: rest =>
    let written := block sanitize tight before first
    written ++ blockAll sanitize tight (startsLine before written) rest

/-- The items of a list. -/
def itemAll (sanitize tight : Bool) : List (List (Block (List Inline))) → Text
  | [] => []
  | blocks :: rest =>
    "<li>".toList ++ blockAll sanitize tight false blocks ++ "</li>\n".toList ++
      itemAll sanitize tight rest

end

end Html

/-- Converts a Markdown text to markup. -/
def Converter.convert (converter : Converter) (source : Text) : Text :=
  Html.blockAll converter.sanitize false true (document converter.smart source)

end Folio.Markdown
