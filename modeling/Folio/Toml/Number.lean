import Folio.Text.Basic

/-!
# Numbers in configuration files

A whole number has a sign or a base other than ten, but not both, and must not be too large. A
number with a fraction or an exponent must be small enough for a binary number of sixty-four
bits. Single underscores may stand between digits.
-/

namespace Folio.Toml

/-- Whether a character is a hexadecimal digit. -/
def isHex (c : Char) : Bool :=
  c.isDigit || ('a' ≤ c && c ≤ 'f') || ('A' ≤ c && c ≤ 'F')

/-- Whether a character is an octal digit. -/
def isOctal (c : Char) : Bool :=
  '0' ≤ c && c ≤ '7'

/-- Whether a character is a binary digit. -/
def isBinary (c : Char) : Bool :=
  c == '0' || c == '1'

/-- The value of a digit of any base up to sixteen. -/
def digitValue (c : Char) : Nat :=
  if c.isDigit then c.toNat - '0'.toNat else c.toLower.toNat - 'a'.toNat + 10

/-- The number that digits write. -/
def numberOf (base : Nat) (digits : Text) : Nat :=
  digits.foldl (fun n c => base * n + digitValue c) 0

@[simp]
theorem numberOf_nil (base : Nat) : numberOf base [] = 0 :=
  rfl

/-- The digits of a class that a text is made of, without the underscores that separate them. -/
def digits? (isDigit : Char → Bool) (text : Text) : Option Text :=
  let groups := Text.splitAtEach '_' text
  if groups.all fun group => !group.isEmpty && group.all isDigit then some groups.flatten
  else none

/-- Whether a text starts with a minus sign, and the text without its sign. -/
def signed : Text → Bool × Text
  | '+' :: text => (false, text)
  | '-' :: text => (true, text)
  | text => (false, text)

/-- The digits of a decimal number without sign and fraction. A number of several digits does
not start with zero. -/
def whole? (text : Text) : Option Text :=
  if text.length == 1 || text.head? != some '0' then digits? Char.isDigit text else none

/-- The whole number that a text writes. -/
def integer? : Text → Option Int
  | '0' :: 'x' :: text => (digits? isHex text).map fun digits => .ofNat (numberOf 16 digits)
  | '0' :: 'o' :: text => (digits? isOctal text).map fun digits => .ofNat (numberOf 8 digits)
  | '0' :: 'b' :: text => (digits? isBinary text).map fun digits => .ofNat (numberOf 2 digits)
  | text =>
    let (negative, text) := signed text
    (whole? text).map fun digits =>
      if negative then -.ofNat (numberOf 10 digits) else .ofNat (numberOf 10 digits)

/-- Whether a whole number can be kept in a hundred and twenty-eight bits, with or without a
sign. -/
def isInBounds (n : Int) : Bool :=
  -.ofNat (Nat.pow 2 127) ≤ n && n < .ofNat (Nat.pow 2 128)

/-- Whether a text is a whole number that is not too large. -/
def isInteger (text : Text) : Bool :=
  (integer? text).any isInBounds

/-- The least number that is rounded to infinity. -/
def leastInfinite : Nat :=
  Nat.pow 2 1024 - Nat.pow 2 970

/-- Whether the number that `digits` write, times ten to the power of `scale`, is rounded to
infinity. Most numbers are told by their size alone. -/
def isTooLarge (digits : Text) (scale : Int) : Bool :=
  let significant := digits.dropWhile (· == '0')
  let size := scale + significant.length
  if significant.isEmpty || size ≤ 308 then false
  else if 310 ≤ size then true
  else if 0 ≤ scale then
    leastInfinite ≤ numberOf 10 significant * Nat.pow 10 scale.toNat
  else leastInfinite * Nat.pow 10 (-scale).toNat ≤ numberOf 10 significant

/-- The digits after a point; without a point there are none. -/
def fractionDigits? : Text → Option Text
  | [] => some []
  | _ :: text => digits? Char.isDigit text

/-- The exponent after its letter; without the letter it is zero. -/
def exponent? : Text → Option Int
  | [] => some 0
  | _ :: text =>
    let (negative, text) := signed text
    (digits? Char.isDigit text).map fun digits =>
      if negative then -.ofNat (numberOf 10 digits) else .ofNat (numberOf 10 digits)

/-- Whether a text is a number with a fraction or an exponent that is not too large, or one of
the special numbers. -/
def isFloat (text : Text) : Bool :=
  let (_, text) := signed text
  if text == "inf".toList || text == "nan".toList then true
  else
    let (mantissa, exponent) := Text.run (fun c => c != 'e' && c != 'E') text
    let (whole, fraction) := Text.run (· != '.') mantissa
    if fraction.isEmpty && exponent.isEmpty then false
    else
      match whole? whole, fractionDigits? fraction, exponent? exponent with
      | some whole, some fraction, some exponent =>
        !isTooLarge (whole ++ fraction) (exponent - fraction.length)
      | _, _, _ => false

end Folio.Toml
