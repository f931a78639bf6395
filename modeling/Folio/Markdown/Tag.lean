import Folio.Markdown.Line

/-!
# Raw markup in Markdown

The shapes of raw markup: tags, comments, processing instructions, declarations and character
data; and addresses between angle brackets. Each reader is given the text after the opening
angle bracket and gives what was read, up to and including the closing one, and what follows. A
tag may go on over several lines, and what stands before the content of the lines is not part
of it; everything else is taken as it stands.
-/

namespace Folio.Markdown.Tag

/-- A reader of a part of raw markup: what was read, and what follows it. -/
abbrev Reader := Text → Option (Text × Text)

/-- Everything up to and including a mark. -/
def through? (mark : Text) : Reader := fun text =>
  (Text.cutAt? mark text).map fun (content, after) => (content ++ mark, after)

/-- Blanks and line ends, at most `fuel`. -/
def space? (margin : Margin) : (fuel : Nat) → Reader
  | 0, text => some ([], text)
  | fuel + 1, text =>
    match text with
    | [] => some ([], [])
    | c :: rest =>
      if isLineBlank c then
        (space? margin fuel rest).map fun (content, after) => (c :: content, after)
      else if endsLine text then do
        let (ending, rest) ← cross? margin text
        let (content, after) ← space? margin fuel rest
        some (ending ++ content, after)
      else some ([], text)

/-- A tag name. -/
def name? : Reader
  | c :: text =>
    if c.isAlpha then
      let (name, after) := Text.run (fun c => c.isAlphanum || c == '-') text
      some (c :: name, after)
    else none
  | [] => none

/-- The name of an attribute. -/
def attributeName? : Reader
  | c :: text =>
    if c.isAlpha || c == '_' || c == ':' then
      let (name, after) := Text.run (fun c => c.isAlphanum || "_.:-".toList.contains c) text
      some (c :: name, after)
    else none
  | [] => none

/-- The rest of an attribute value up to and including the quotation mark that ends it. -/
def quotedRest? (margin : Margin) (mark : Char) : (fuel : Nat) → Reader
  | 0, _ => none
  | fuel + 1, text =>
    match text with
    | [] => none
    | c :: rest =>
      if c = mark then some ([c], rest)
      else if endsLine text then do
        let (ending, rest) ← cross? margin text
        let (content, after) ← quotedRest? margin mark fuel rest
        some (ending ++ content, after)
      else (quotedRest? margin mark fuel rest).map fun (content, after) => (c :: content, after)

/-- Whether a character may stand in an attribute value without quotation marks. -/
def isBareValueChar (c : Char) : Bool :=
  !("\"' =><`\n\r".toList.contains c)

/-- An attribute value: between quotation marks of either sort, or bare. -/
def attributeValue? (margin : Margin) : Reader
  | [] => none
  | c :: text =>
    if c = '"' ∨ c = '\'' then
      (quotedRest? margin c (text.length + 1) text).map fun (content, after) =>
        (c :: content, after)
    else
      match Text.run isBareValueChar (c :: text) with
      | ([], _) => none
      | (value, after) => some (value, after)

/-- An attribute. -/
def attribute? (margin : Margin) : Reader := fun text => do
  let (name, after) ← attributeName? text
  let (before, rest) ← space? margin after.length after
  match rest with
  | '=' :: rest => do
    let (behind, rest) ← space? margin rest.length rest
    let (value, rest) ← attributeValue? margin rest
    some (name ++ before ++ '=' :: behind ++ value, rest)
  | _ => some (name, after)

/-- The attributes of a tag, at most `fuel`, with the space before each and after the last. -/
def attributes? (margin : Margin) : (fuel : Nat) → Reader
  | 0, _ => none
  | fuel + 1, text => do
    let (space, text) ← space? margin text.length text
    match text with
    | '/' :: _ => some (space, text)
    | '>' :: _ => some (space, text)
    | _ =>
      if space.isEmpty then none
      else do
        let (content, text) ← attribute? margin text
        let (rest, text) ← attributes? margin fuel text
        some (space ++ content ++ rest, text)

/-- An opening tag. -/
def openTag? (margin : Margin) : Reader := fun text => do
  let (name, text) ← name? text
  let (attributes, text) ← attributes? margin (text.length + 1) text
  match text with
  | '/' :: '>' :: after => some (name ++ attributes ++ ['/', '>'], after)
  | '>' :: after => some (name ++ attributes ++ ['>'], after)
  | _ => none

/-- A closing tag. -/
def closeTag? : Reader
  | '/' :: text => do
    let (name, text) ← name? text
    let (space, text) := Text.run isLineBlank text
    match text with
    | '>' :: after => some ('/' :: name ++ space ++ ['>'], after)
    | _ => none
  | _ => none

/-- A tag. -/
def tag? (margin : Margin) : Reader := fun text =>
  openTag? margin text <|> closeTag? text

/-- A comment; two short forms are comments of their own. -/
def comment? : Reader := fun text => do
  let inner ← Text.dropLead? "!--".toList text
  match inner with
  | '>' :: after => some ("!-->".toList, after)
  | '-' :: '>' :: after => some ("!--->".toList, after)
  | _ =>
    let (content, after) ← through? "-->".toList inner
    some ("!--".toList ++ content, after)

/-- A processing instruction. -/
def instruction? : Reader
  | '?' :: text => (through? "?>".toList text).map fun (content, after) => ('?' :: content, after)
  | _ => none

/-- A declaration. -/
def declaration? : Reader
  | '!' :: c :: text =>
    if c.isAlpha then
      (through? ['>'] text).map fun (content, after) => ('!' :: c :: content, after)
    else none
  | _ => none

/-- Character data. The first closing brackets in it have to end it. -/
def characterData? : Reader := fun text => do
  let lead := "![CDATA[".toList
  let inner ← Text.dropLead? lead text
  let (content, after) := Text.run (· != ']') inner
  let (brackets, after) := Text.run (· == ']') after
  match brackets, after with
  | _ :: _, '>' :: after => some (lead ++ content ++ brackets ++ ['>'], after)
  | _, _ => none

/-- Any raw markup inside running text. -/
def inline? (margin : Margin) : Reader := fun text =>
  tag? margin text <|> comment? text <|> instruction? text <|> declaration? text <|>
    characterData? text

/-- An address with a scheme; the address is given without the closing angle bracket. -/
def address? : Reader := fun text =>
  match Text.run (fun c => c.isAlphanum || "+.-".toList.contains c) text with
  | (scheme, ':' :: rest) =>
    if scheme.head?.any Char.isAlpha && 2 ≤ scheme.length && scheme.length ≤ 32 then
      match Text.run (fun c => !(c.toNat ≤ 0x20 || c == '<' || c == '>')) rest with
      | (path, '>' :: after) => some (scheme ++ ':' :: path, after)
      | _ => none
    else none
  | _ => none

/-- Whether a part of a host name between dots is in order. -/
def isHostLabel (label : Text) : Bool :=
  !label.isEmpty && label.length ≤ 63 && label.all (fun c => c.isAlphanum || c == '-') &&
    label.head? != some '-' && label.getLast? != some '-'

/-- A mail address; it is given without the closing angle bracket. -/
def mail? : Reader := fun text =>
  match Text.run (fun c => c.isAlphanum || ".!#$%&'*+/=?^_`\x7b|\x7d~-".toList.contains c) text with
  | (user, '@' :: rest) =>
    match Text.run (fun c => c.isAlphanum || c == '-' || c == '.') rest with
    | (host, '>' :: after) =>
      if !user.isEmpty && (Text.splitAtEach '.' host).all isHostLabel then
        some (user ++ '@' :: host, after)
      else none
    | _ => none
  | _ => none

end Folio.Markdown.Tag
