import Folio.Entity
import Folio.Pattern.Basic

/-!
# Escapes

In a written pattern a backslash and what follows it stand for a character, for a class of
characters or for a place. A character can also be written by its number.
-/

namespace Folio

/-- Why a text is no pattern. -/
inductive PatternFault where
  | unclosedGroup
  | unopenedGroup
  | unclosedClass
  | nothingToRepeat
  | unclosedRepeat
  | badRepeat
  | badRange
  | badEscape
  | tooDeep
  | tooLarge
  /-- A form that patterns of this library do not have. -/
  | unknownForm
deriving DecidableEq, Repr

namespace Pattern

/-- What an escape stands for. -/
inductive Escape where
  | char (c : Char)
  | oneOf (inClass : CharClass)
  | here (place : Place)
deriving Repr

/-- What a backslash and a character stand for. A character that is neither a letter nor a digit
stands for itself. -/
def escapeOf? (c : Char) : Option Escape :=
  match c with
  | 'd' => some (.oneOf .digit)
  | 'D' => some (.oneOf (.complement .digit))
  | 'w' => some (.oneOf .word)
  | 'W' => some (.oneOf (.complement .word))
  | 's' => some (.oneOf .blank)
  | 'S' => some (.oneOf (.complement .blank))
  | 'b' => some (.here .wordEdge)
  | 'B' => some (.here .noWordEdge)
  | 'A' => some (.here .start)
  | 'z' => some (.here .finish)
  | 'n' => some (.char '\n')
  | 't' => some (.char '\t')
  | 'r' => some (.char '\r')
  | 'a' => some (.char '\x07')
  | 'f' => some (.char '\x0c')
  | 'v' => some (.char '\x0b')
  | _ => if c.toNat < 0x80 && !c.isAlphanum then some (.char c) else none

/-- Whether a character is a hexadecimal digit. -/
def isHex (c : Char) : Bool :=
  c.isDigit || ('a' ≤ c && c ≤ 'f') || ('A' ≤ c && c ≤ 'F')

/-- The character whose number hexadecimal digits write. -/
def hexChar? (digits : Text) : Option Char :=
  if digits.isEmpty || !digits.all isHex then none
  else
    Entity.charOfNat? <|
      digits.foldl
        (fun n c =>
          16 * n +
            (if c.isDigit then c.toNat - '0'.toNat else c.toLower.toNat - 'a'.toNat + 10))
        0

/-- Reads a character written by number, after the letter that announces it: digits between
braces, or as many digits as the letter asks for. -/
def numberedChar? (digits : Nat) : Text → Option (Char × Text)
  | '\x7b' :: text => do
    let (inner, after) ← Text.cutAt? ['\x7d'] text
    (hexChar? inner).map (·, after)
  | text =>
    if text.length < digits then none
    else (hexChar? (text.take digits)).map (·, text.drop digits)

/-- How many digits a letter asks for that announces a character written by number. -/
def numberDigits? : Char → Option Nat
  | 'x' => some 2
  | 'u' => some 4
  | 'U' => some 8
  | _ => none

/-- Whether an escape has a form that is not known here: classes by name, and places at one edge of
a word, which a sign or a name in braces tells apart. -/
def isUnknownEscape (c : Char) (text : Text) : Bool :=
  match c, text with
  | 'p', _ | 'P', _ | '<', _ | '>', _ => true
  | 'b', '\x7b' :: d :: _ => d.isAlpha || d == '-'
  | _, _ => false

/-- Reads what an escape stands for, after its backslash. -/
def escape? : Text → Except PatternFault (Escape × Text)
  | [] => .error .badEscape
  | c :: text =>
    if isUnknownEscape c text then .error .unknownForm
    else
      let read :=
        match numberDigits? c with
        | some digits => (numberedChar? digits text).map fun (d, after) => (Escape.char d, after)
        | none => (escapeOf? c).map (·, text)
      match read with
      | some escape => .ok escape
      | none => .error .badEscape

end Pattern

end Folio
