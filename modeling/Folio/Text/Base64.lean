import Folio.Text.Basic

/-!
# Base64

Octets in groups of three are written as four signs of an alphabet of 64; an incomplete last
group is padded with equals signs.
-/

namespace Folio.Text

/-- The sign of a number below 64. -/
def base64Sign (n : Nat) : Char :=
  if n < 26 then Char.ofNat ('A'.toNat + n)
  else if n < 52 then Char.ofNat ('a'.toNat + (n - 26))
  else if n < 62 then Char.ofNat ('0'.toNat + (n - 52))
  else if n = 62 then '+'
  else '/'

/-- Octets in Base64. -/
def base64 : List UInt8 → Text
  | [] => []
  | [a] =>
    let n := a.toNat * 0x10
    [base64Sign (n / 0x40), base64Sign (n % 0x40), '=', '=']
  | [a, b] =>
    let n := (a.toNat * 0x100 + b.toNat) * 0x4
    [base64Sign (n / 0x1000), base64Sign (n / 0x40 % 0x40), base64Sign (n % 0x40), '=']
  | a :: b :: c :: rest =>
    let n := (a.toNat * 0x100 + b.toNat) * 0x100 + c.toNat
    base64Sign (n / 0x40000) :: base64Sign (n / 0x1000 % 0x40) :: base64Sign (n / 0x40 % 0x40) ::
      base64Sign (n % 0x40) :: base64 rest

end Folio.Text
