import Folio.Markdown.Inline.Flank
import Folio.Markdown.Inline.Basic
import Folio.Markdown.Prose

/-!
# Tokens of running text

Running text is first cut into tokens: signs that may have a meaning, breaks between lines, and
the characters of plain text. Every token knows where it stands, so that whatever is found to be
taken whole can pass over the tokens in it.
-/

namespace Folio.Markdown

/-- What a token may turn out to be. -/
inductive TokenKind where
  | text
  /-- Text that is written in another way in the document. -/
  | shown (content : Text)
  | softBreak
  /-- A break that two blanks or a backslash before the line ending demand. -/
  | hardBreak (byBackslash : Bool)
  /-- A run of one of the signs of emphasis. -/
  | run (sign : Char) (length : Nat) (canOpen canClose : Bool)
  /-- A quotation mark. -/
  | quotation (sign : Char) (canOpen canClose : Bool)
  /-- An opening angle bracket. -/
  | angle
  /-- A run of backquotes; the first may have a backslash before it. -/
  | backquotes (count : Nat) (isEscaped : Bool)
  | opening (isImage : Bool)
  | closing
deriving DecidableEq, Repr

/-- A token: where it starts and stops, and the text from its start on. -/
structure Token where
  kind : TokenKind
  start : Nat
  stop : Nat
  source : Text
deriving Repr

namespace Token

/-- The characters of a token. -/
def text (token : Token) : Text :=
  token.source.take (token.stop - token.start)

/-- What follows a token. -/
def after (token : Token) : Text :=
  token.source.drop (token.stop - token.start)

/-- A token without what stands before a position. -/
def cutAt (token : Token) (position : Nat) : Token :=
  { token with
    start := max token.start position
    source := token.source.drop (position - token.start) }

end Token

/-- Which typographic signs running text is given, and where its links lead. -/
structure InlineStyle where
  /-- Whether quotation marks, dashes and ellipses become typographic ones. -/
  smart : Bool
  definitions : Definitions

/-- The typographic signs for a run of hyphens: as few as there can be, of one length if
possible. -/
def dashes (count : Nat) : Text :=
  let (long, short) :=
    match count % 6 with
    | 0 | 3 => (count / 3, 0)
    | 2 | 4 => (0, count / 2)
    | 1 => (count / 3 - 1, 2)
    | _ => (count / 3, 1)
  List.replicate long '—' ++ List.replicate short '–'

/-- What stands at a place: characters that are dropped, and a token after them. -/
structure Cut where
  dropped : Nat
  kind : TokenKind
  length : Nat
deriving DecidableEq, Repr

namespace Cut

/-- The number of equal characters that a text starts with. -/
def runLength : Text → Nat
  | [] => 0
  | c :: text => (text.takeWhile (· == c)).length + 1

/-- Plain text. -/
def plain (length : Nat) : Cut := ⟨0, .text, length⟩

/-- A sign after a backslash. In a table a bar may have two backslashes before it. -/
def escaped (inTable : Bool) : Text → Cut
  | '\\' :: '|' :: _ => if inTable then ⟨2, .text, 1⟩ else ⟨1, .text, 1⟩
  | c :: text =>
    if c = '`' then
      let count := runLength (c :: text)
      ⟨1, .backquotes count true, count⟩
    else if Unicode.isAsciiPunctuation c then ⟨1, .text, 1⟩
    else plain 1
  | [] => plain 1

/-- A run of signs of emphasis before a text. Three tildes or more have no meaning. -/
def emphasis (flank : Flank) : Cut :=
  if (flank.opens || flank.closes) && (flank.sign != '~' || flank.length ≤ 2) then
    ⟨0, .run flank.sign flank.length flank.opens flank.closes, flank.length⟩
  else plain flank.length

/-- What stands at the start of a text; `previous` is the character before it, and `atEdge` tells
whether that is the edge of a table cell. -/
def ofText (smart inTable atEdge : Bool) (previous : Option Char) : Text → Cut
  | [] => plain 0
  | c :: text =>
    let flank (length : Nat) : Flank :=
      let next := ((c :: text).drop length).head?
      ⟨c, length, previous, next, inTable && atEdge && previous == some '|',
        inTable && next == some '|'⟩
    match c with
    | '\\' => escaped inTable text
    | '*' => emphasis (flank (runLength (c :: text)))
    | '_' => emphasis (flank (runLength (c :: text)))
    | '~' => emphasis (flank (runLength (c :: text)))
    | '`' =>
      let count := runLength (c :: text)
      ⟨0, .backquotes count false, count⟩
    | '<' => if text.head? = some '\\' then plain 1 else ⟨0, .angle, 1⟩
    | '[' => ⟨0, .opening false, 1⟩
    | ']' => ⟨0, .closing, 1⟩
    | '!' => if text.head? = some '[' then ⟨0, .opening true, 2⟩ else plain 1
    | '&' =>
      match reference? (c :: text) with
      | some (content, after) => ⟨0, .shown content, text.length + 1 - after.length⟩
      | none => plain 1
    | '.' => if smart && runLength (c :: text) ≥ 3 then ⟨0, .shown ['…'], 3⟩ else plain 1
    | '-' =>
      let count := runLength (c :: text)
      if smart && count ≥ 2 then ⟨0, .shown (dashes count), count⟩ else plain count
    | _ =>
      if smart && (c == '"' || c == '\'') then
        ⟨0, .quotation c (flank 1).opens (flank 1).closes, 1⟩
      else plain 1

end Cut

namespace Token

/-- The tokens of a stretch of `left` characters, of which the first `skip` belong to an earlier
token. The text goes on after the stretch. -/
def ofStretch (smart inTable : Bool) :
    (skip left position : Nat) → (atEdge : Bool) → (previous : Option Char) → Text → List Token
  | _, 0, _, _, _, _ => []
  | _, _, _, _, _, [] => []
  | skip + 1, left + 1, position, _, _, c :: text =>
    ofStretch smart inTable skip left (position + 1) false (some c) text
  | 0, left + 1, position, atEdge, previous, c :: text =>
    let cut := Cut.ofText smart inTable atEdge previous (c :: text)
    let start := position + cut.dropped
    ⟨cut.kind, start, start + cut.length, (c :: text).drop cut.dropped⟩ ::
      ofStretch smart inTable (cut.dropped + cut.length - 1) left (position + 1) false (some c) text

/-- The break at the end of a line that is not the last, and how many characters of the content
it takes. An odd number of backslashes at the end, or two blanks or more, make it a hard one. -/
def lineBreak (line : ProseLine) : TokenKind × Nat :=
  let backslashes := (Text.run (· == '\\') line.content.reverse).1.length
  let blanks := (Text.run isLineBlank (line.margin ++ line.content).reverse).1.length
  if backslashes % 2 = 1 then (.hardBreak true, 1)
  else if 2 ≤ blanks then (.hardBreak false, blanks)
  else (.softBreak, 0)

/-- The tokens of lines from a position on; `previous` is the character before them, and `source`
the text that they start. -/
def ofLines (smart inTable : Bool) :
    (position : Nat) → (previous : Option Char) → (source : Text) → List ProseLine → List Token
  | _, _, _, [] => []
  | position, previous, source, line :: rest =>
    let start := position + line.margin.length
    let stop := start + line.content.length
    let visible := (Text.dropRightWhile isLineBlank line.content).length
    let before := line.margin.getLast? <|> previous
    let tokens (length : Nat) : List Token :=
      ofStretch smart inTable 0 length start true before (source.drop line.margin.length)
    if rest.isEmpty then tokens visible
    else
      let (kind, taken) := lineBreak line
      let last : Token :=
        ⟨kind, stop - taken, stop + line.ending.length, source.drop (stop - taken - position)⟩
      tokens (min visible (line.content.length - taken)) ++
        last :: ofLines smart inTable (stop + line.ending.length)
          (line.ending.getLast? <|> line.content.getLast?)
          (source.drop (stop + line.ending.length - position)) rest

/-- Tokens of which the last one stops `count` characters later. -/
def extendLast (count : Nat) : List Token → List Token
  | [] => []
  | [token] => [{ token with stop := token.stop + count }]
  | token :: rest => token :: extendLast count rest

end Token

/-- The tokens of a running text. -/
def Prose.tokens (smart : Bool) (prose : Prose) : List Token :=
  let tokens := Token.ofLines smart prose.inTable 0 prose.previous prose.source prose.lines
  match prose.keepsBlanks, prose.lines.getLast? with
  | true, some line => Token.extendLast (Text.run isLineBlank line.content.reverse).1.length tokens
  | _, _ => tokens

end Folio.Markdown
