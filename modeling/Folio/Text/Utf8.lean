import Folio.Text.Basic

/-!
# UTF-8

The octets of a text, and the text of octets. Octets that are no text are told apart: encodings
that are too long, surrogates and numbers past the last character are refused.
-/

namespace Folio.Text

/-- The octets of a character. -/
def utf8Char (c : Char) : List UInt8 :=
  let point := c.toNat
  let tail (unit : Nat) : UInt8 := .ofNat (0x80 + point / unit % 0x40)
  if point < 0x80 then [.ofNat point]
  else if point < 0x800 then [.ofNat (0xC0 + point / 0x40), tail 1]
  else if point < 0x10000 then [.ofNat (0xE0 + point / 0x1000), tail 0x40, tail 1]
  else [.ofNat (0xF0 + point / 0x40000), tail 0x1000, tail 0x40, tail 1]

/-- The octets of a text. -/
def toUtf8 (text : Text) : List UInt8 :=
  text.flatMap utf8Char

/-- What a first octet promises: the octets that follow, the bits it holds itself, and the least
number that may be written with that many octets. -/
def utf8Lead? (octet : UInt8) : Option (Nat × Nat × Nat) :=
  let n := octet.toNat
  if n < 0x80 then some (0, n, 0)
  else if 0xC0 ≤ n ∧ n < 0xE0 then some (1, n - 0xC0, 0x80)
  else if 0xE0 ≤ n ∧ n < 0xF0 then some (2, n - 0xE0, 0x800)
  else if 0xF0 ≤ n ∧ n < 0xF8 then some (3, n - 0xF0, 0x10000)
  else none

/-- Reads octets of which `owed` still belong to a character whose bits so far are `bits`; the
character must not be below `least`. -/
def ofUtf8From (owed bits least : Nat) : List UInt8 → Option Text
  | [] => if owed = 0 then some [] else none
  | octet :: octets =>
    let finish (owed bits least : Nat) : Option Text :=
      if owed = 0 then
        if least ≤ bits ∧ bits.isValidChar then
          (ofUtf8From 0 0 0 octets).map (Char.ofNat bits :: ·)
        else none
      else ofUtf8From owed bits least octets
    match owed with
    | 0 =>
      match utf8Lead? octet with
      | some (owed, bits, least) => finish owed bits least
      | none => none
    | owed + 1 =>
      if 0x80 ≤ octet.toNat ∧ octet.toNat < 0xC0 then
        finish owed (bits * 0x40 + (octet.toNat - 0x80)) least
      else none

/-- The text of octets, if they are one. -/
def ofUtf8? (octets : List UInt8) : Option Text :=
  ofUtf8From 0 0 0 octets

end Folio.Text
