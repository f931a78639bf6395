import Folio.Markdown.Inline.Token

/-!
# Targets of links

What may follow the closing bracket of a link: an address with a title in parentheses, or a
label in brackets. Without either, the text of the link itself may be a label.
-/

namespace Folio.Markdown.Link

/-- Passes over blanks with at most one line ending among them. -/
def separator (prose : Prose) (text : Text) : Text :=
  let text := text.dropWhile isLineBlank
  match cross? prose.margin text with
  | some (_, text) => text.dropWhile isLineBlank
  | none => text

/-- The rest of a title up to the sign that closes it, and the position after that; `skip`
characters belong to what was read before. At the end of a line reading goes on with the next
one of the tokens that follow. -/
def titleRest? (inTable : Bool) (tokens : List Token) (closing : Char) :
    (skip position : Nat) → Text → Option (Text × Nat)
  | _, _, [] => none
  | skip + 1, position, _ :: text => titleRest? inTable tokens closing skip (position + 1) text
  | 0, position, c :: text =>
    let go (skip : Nat) : Option (Text × Nat) :=
      titleRest? inTable tokens closing skip (position + 1) text
    if c = closing then some ([], position + 1)
    else if closing = ')' ∧ c = '(' then none
    else if c = '\n' ∨ c = '\r' then
      match tokens.find? (position + 1 < ·.stop) with
      | some token =>
        if position < token.start then
          (go (token.start - position - 1)).map fun (title, stop) => ('\n' :: title, stop)
        else (go 0).map fun (title, stop) => (c :: title, stop)
      | none => (go 0).map fun (title, stop) => (c :: title, stop)
    else
      match reference? (c :: text) with
      | some (content, after) =>
        (go (text.length - after.length)).map fun (title, stop) => (content ++ title, stop)
      | none =>
        match c, text with
        | '\\', '\\' :: '|' :: _ =>
          if inTable then (go 2).map fun (title, stop) => ('|' :: title, stop)
          else (go 1).map fun (title, stop) => ('\\' :: title, stop)
        | '\\', d :: _ =>
          if Unicode.isAsciiPunctuation d then
            (go 1).map fun (title, stop) => (d :: title, stop)
          else (go 0).map fun (title, stop) => (c :: title, stop)
        | _, _ => (go 0).map fun (title, stop) => (c :: title, stop)

/-- A title between quotation marks or parentheses, and the position after it. -/
def title? (inTable : Bool) (tokens : List Token) (position : Nat) : Text → Option (Text × Nat)
  | '"' :: text => titleRest? inTable tokens '"' 0 (position + 1) text
  | '\'' :: text => titleRest? inTable tokens '\'' 0 (position + 1) text
  | '(' :: text => titleRest? inTable tokens ')' 0 (position + 1) text
  | _ => none

/-- How deep parentheses may stand in each other in an address. -/
def deepest : Nat := 32

/-- A target in parentheses at a position, and the position after it. -/
def inline? (prose : Prose) (tokens : List Token) (position : Nat) :
    Text → Option (Target × Nat)
  | '(' :: text => do
    let stop (after : Text) : Nat := position + 1 + (text.length - after.length)
    let (address, rest) ← Target.address? deepest (separator prose text)
    let rest := separator prose rest
    let (title, rest) :=
      match title? prose.inTable tokens (stop rest) rest with
      | some (title, after) => (title, separator prose (rest.drop (after - stop rest)))
      | none => ([], rest)
    match rest with
    | ')' :: after => some (⟨unescape prose.inTable address, title⟩, stop after)
    | _ => none
  | _ => none

/-- What the tokens after a closing bracket say about where a link leads. -/
inductive Reference where
  /-- Where a label up to a position says. -/
  | label (label : Text) (stop : Nat)
  /-- Where the text of the link says, and an empty label up to a position stresses it. -/
  | collapsed (stop : Nat)
  /-- Where the text of the link says. -/
  | shortcut
deriving DecidableEq, Repr

/-- The reference that the tokens after a closing bracket make. -/
def reference (prose : Prose) : List Token → Reference
  | [] => .shortcut
  | token :: _ =>
    match token.source with
    | '[' :: ']' :: _ => .collapsed (token.start + 2)
    | '[' :: text =>
      match Label.read? prose.inTable prose.margin text with
      | some (label, after) => .label label (token.start + 1 + (text.length - after.length))
      | none => .shortcut
    | _ => .shortcut

/-- The text between two brackets as a label; `length` characters follow the opening bracket, the
closing one included. -/
def ownLabel? (prose : Prose) (length : Nat) (text : Text) : Option Text :=
  match Label.read? prose.inTable prose.margin (text.take length) with
  | some (label, []) => some label
  | _ => none

end Folio.Markdown.Link
