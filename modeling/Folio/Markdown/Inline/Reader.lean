import Folio.Markdown.Inline.Emphasis
import Folio.Markdown.Inline.Link
import Folio.Markdown.Tag

/-!
# Reading running text

The tokens of a running text are read one after another. Code, raw markup and addresses are
taken whole wherever they start. An opening bracket is kept until a closing one turns up; if a
target follows, what stands between them is a link or an image. The text of a link holds no
other link.
-/

namespace Folio.Markdown

/-- An opening bracket that has not been closed yet. -/
structure Bracket where
  token : Token
  isImage : Bool
  /-- Whether the bracket may still open a link. -/
  isActive : Bool
  /-- What was read before the bracket at its level, latest first. -/
  before : List Node
deriving Repr

/-- What has been read of a running text. -/
structure InlineState where
  /-- The parts read since the latest open bracket, latest first. -/
  nodes : List Node
  /-- The open brackets, latest first. -/
  brackets : List Bracket
  /-- Up to where the text has been taken. -/
  position : Nat
  /-- Where the closing bracket stops that ended the latest label. It does not make its own text
  a label. -/
  barred : Option Nat
  /-- How many octets of targets may still be taken from link definitions. -/
  allowance : Nat
deriving Repr

namespace InlineState

/-- Nothing has been read. -/
def initial (allowance : Nat) : InlineState := ⟨[], [], 0, none, allowance⟩

/-- Adds a part. -/
def push (state : InlineState) (node : Node) : InlineState :=
  { state with nodes := node :: state.nodes }

/-- Adds text. -/
def pushText (state : InlineState) (content : Text) : InlineState :=
  state.push (.done (.text content))

/-- Adds a part that takes the text up to a position. -/
def takeTo (state : InlineState) (position : Nat) (inline : Inline) : InlineState :=
  { state.push (.done inline) with position }

end InlineState

/-- Parts read since a bracket together with the ones before it; the bracket itself is text. -/
def Bracket.dissolve (bracket : Bracket) (since : List Node) : List Node :=
  since ++ .done (.text bracket.token.text) :: bracket.before

/-- Gives up all open brackets. -/
def dissolveAll (nodes : List Node) (brackets : List Bracket) : List Node :=
  brackets.foldl (fun nodes bracket => bracket.dissolve nodes) nodes

/-- The characters of a code span: the ends of lines are spaces, and what stands before the
content of the next line is left out. In a table a bar has a backslash before it. -/
def codeChars (prose : Prose) : (skip : Nat) → Text → Text
  | _, [] => []
  | skip + 1, _ :: text => codeChars prose skip text
  | 0, c :: text =>
    if c = '\n' ∨ c = '\r' then ' ' :: codeChars prose (prose.marginLength text) text
    else if prose.inTable ∧ c = '\\' ∧ text.head? = some '|' then codeChars prose 0 text
    else c :: codeChars prose 0 text

/-- The content of a code span: one space at each end is dropped unless there are only
spaces. -/
def codeContent (prose : Prose) (text : Text) : Text :=
  let content := codeChars prose 0 text
  if content.head? = some ' ' ∧ content.getLast? = some ' ' ∧ !content.all (· == ' ') then
    (content.drop 1).dropLast
  else content

/-- The first token of a list that is a run of so many backquotes. -/
def closingBackquotes? (count : Nat) (tokens : List Token) : Option Token :=
  tokens.find? fun token =>
    match token.kind with
    | .backquotes other _ => other == count
    | _ => false

/-- Reads a run of backquotes. The first may have a backslash before it: then it is text, and the
others start code. -/
def readBackquotes (prose : Prose) (count : Nat) (isEscaped : Bool) (token : Token)
    (rest : List Token) (state : InlineState) : InlineState :=
  let count := if isEscaped then count - 1 else count
  match if count = 0 then none else closingBackquotes? count rest with
  | some closing =>
    let state := if isEscaped then state.pushText ['`'] else state
    let content := token.after.take (closing.start - token.stop)
    state.takeTo closing.stop (.code (codeContent prose content))
  | none => state.pushText token.text

/-- Reads raw markup or an address between angle brackets. -/
def readAngle (prose : Prose) (token : Token) (state : InlineState) : InlineState :=
  let text := token.source.drop 1
  let stop (after : Text) : Nat := token.start + 1 + (text.length - after.length)
  match Tag.address? text with
  | some (address, after) => state.takeTo (stop after) (.link ⟨address, []⟩ [.text address])
  | none =>
    match Tag.mail? text with
    | some (address, after) =>
      state.takeTo (stop after) (.link ⟨"mailto:".toList ++ address, []⟩ [.text address])
    | none =>
      match Tag.inline? prose.margin text with
      | some (content, after) => state.takeTo (stop after) (.raw ('<' :: content))
      | none => state.pushText token.text

/-- The target of a label, as long as anything is left of the allowance. -/
def InlineState.target? (state : InlineState) (style : InlineStyle) (label : Text) :
    Option Target :=
  if state.allowance = 0 then none else style.definitions.target? label

/-- Makes a link or an image of the latest bracket and what follows it. A link takes the meaning
from all links that are open around it. -/
def InlineState.link (state : InlineState) (bracket : Bracket) (outer : List Bracket)
    (target : Target) (position : Nat) : InlineState :=
  let children := settleLink state.nodes.reverse
  if bracket.isImage then
    { state with
      nodes := .done (.image target children) :: bracket.before
      brackets := outer
      position }
  else
    { state with
      nodes := .done (.link target children) :: bracket.before
      brackets := outer.map fun other =>
        if other.isImage then other else { other with isActive := false }
      position }

/-- The target of a bracket by a label, the position after the link, and the bracket that is
barred. -/
def referenceTarget? (prose : Prose) (style : InlineStyle) (bracket : Bracket) (token : Token)
    (rest : List Token) (state : InlineState) : Option (Target × Nat) × Option Nat :=
  let own : Option Target :=
    if state.barred = some token.stop then none
    else
      (Link.ownLabel? prose (token.stop - bracket.token.stop) bracket.token.after).bind
        (state.target? style)
  match Link.reference prose rest with
  | .label label stop =>
    let stop := ((rest.find? (stop ≤ ·.stop)).map Token.stop).getD stop
    ((state.target? style label).map (·, stop), some stop)
  | .collapsed stop => (own.map (·, stop), state.barred)
  | .shortcut => (own.map (·, token.stop), state.barred)

/-- Reads a closing bracket. A target that a label leads to is taken from the allowance. -/
def readClosing (prose : Prose) (style : InlineStyle) (token : Token) (rest : List Token)
    (state : InlineState) : InlineState :=
  match state.brackets with
  | [] => state.pushText token.text
  | bracket :: outer =>
    let unlinked : InlineState :=
      { state with nodes := bracket.dissolve state.nodes, brackets := outer }
    if !bracket.isActive then unlinked.pushText token.text
    else
      match Link.inline? prose rest token.stop token.after with
      | some (target, position) => state.link bracket outer target position
      | none =>
        match referenceTarget? prose style bracket token rest state with
        | (some (target, position), _) =>
          { state.link bracket outer target position with
            allowance := state.allowance - target.size }
        | (none, barred) => { unlinked.pushText token.text with barred }

/-- Reads a token that the tokens `rest` follow. -/
def readToken (prose : Prose) (style : InlineStyle) (token : Token) (rest : List Token)
    (state : InlineState) : InlineState :=
  match token.kind with
  | .text => state.pushText token.text
  | .shown content => state.pushText content
  | .softBreak => state.push (.done .softBreak)
  | .hardBreak false => state.push (.done .hardBreak)
  | .hardBreak true => state.push .backslashBreak
  | .run sign length canOpen canClose =>
    state.push (.run ⟨sign, length, length, canOpen, canClose, token.text.drop length⟩)
  | .quotation sign canOpen canClose => state.push (.mark sign canOpen canClose)
  | .angle => readAngle prose token state
  | .backquotes count isEscaped => readBackquotes prose count isEscaped token rest state
  | .opening isImage =>
    { state with nodes := [], brackets := ⟨token, isImage, true, state.nodes⟩ :: state.brackets }
  | .closing => readClosing prose style token rest state

/-- Reads tokens. Those in a part that has been taken are passed over. -/
def readTokens (prose : Prose) (style : InlineStyle) : List Token → InlineState → InlineState
  | [], state => state
  | token :: rest, state =>
    if token.stop ≤ state.position then readTokens prose style rest state
    else readTokens prose style rest
      (readToken prose style (token.cutAt state.position) rest state)

/-- Reads a running text, for an allowance of octets that targets of labels may take, and gives
what is left of it. -/
def Prose.inlines (style : InlineStyle) (prose : Prose) : StateM Nat (List Inline) :=
  fun allowance =>
    let state := readTokens prose style (prose.tokens style.smart) (.initial allowance)
    (settle (dissolveAll state.nodes state.brackets).reverse, state.allowance)

end Folio.Markdown
