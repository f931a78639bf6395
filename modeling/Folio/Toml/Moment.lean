import Folio.Entity

/-!
# Moments in configuration files

A moment is a date, a time of day, or both, perhaps with the offset of a time zone. A moment may
be written in several ways; readers give the usual one, together with what follows.
-/

namespace Folio.Toml

/-- A number written with a fixed count of digits, with its digits. -/
structure Counted where
  value : Nat
  digits : Text
  rest : Text

/-- Reads a number with a fixed count of digits that lies within bounds. -/
def counted? (count least most : Nat) (text : Text) : Option Counted := do
  let digits := text.take count
  if digits.length = count then
    let value ← Entity.number? digits
    if least ≤ value ∧ value ≤ most then some ⟨value, digits, text.drop count⟩ else none
  else none

/-- The number of days of a month. -/
def daysOf (year month : Nat) : Nat :=
  if month = 2 then
    if year % 4 = 0 ∧ (year % 100 ≠ 0 ∨ year % 400 = 0) then 29 else 28
  else if month = 4 ∨ month = 6 ∨ month = 9 ∨ month = 11 then 30
  else 31

/-- Reads a date. -/
def date? (text : Text) : Option (Text × Text) := do
  let year ← counted? 4 0 9999 text
  let text ← Text.dropLead? ['-'] year.rest
  let month ← counted? 2 1 12 text
  let text ← Text.dropLead? ['-'] month.rest
  let day ← counted? 2 1 (daysOf year.value month.value) text
  some (year.digits ++ '-' :: month.digits ++ '-' :: day.digits, day.rest)

/-- Reads a fraction of a second; there need not be one. Nine digits of it count, and zeros at
its end are left out. -/
def fraction? : Text → Option (Text × Text)
  | '.' :: text =>
    match Text.run Char.isDigit text with
    | ([], _) => none
    | (digits, rest) =>
      match Text.dropRightWhile (· == '0') (digits.take 9) with
      | [] => some (".0".toList, rest)
      | kept => some ('.' :: kept, rest)
  | text => some ([], text)

/-- Reads a time of day; the seconds may be left out. -/
def time? (text : Text) : Option (Text × Text) := do
  let hour ← counted? 2 0 23 text
  let text ← Text.dropLead? [':'] hour.rest
  let minute ← counted? 2 0 59 text
  let clock := hour.digits ++ ':' :: minute.digits
  match minute.rest with
  | ':' :: text => do
    let second ← counted? 2 0 60 text
    let (fraction, rest) ← fraction? second.rest
    some (clock ++ ':' :: second.digits ++ fraction, rest)
  | rest => some (clock, rest)

/-- Reads the offset of a time zone; there need not be one. No offset is written as a positive
one. -/
def offset? : Text → Option (Text × Text)
  | 'Z' :: text => some (['Z'], text)
  | 'z' :: text => some (['Z'], text)
  | sign :: text =>
    if sign = '+' ∨ sign = '-' then do
      let hour ← counted? 2 0 23 text
      let text ← Text.dropLead? [':'] hour.rest
      let minute ← counted? 2 0 59 text
      let sign := if hour.value = 0 ∧ minute.value = 0 then '+' else sign
      some (sign :: hour.digits ++ ':' :: minute.digits, minute.rest)
    else some ([], sign :: text)
  | [] => some ([], [])

/-- Reads a time of day with the offset of a time zone. -/
def clock? (text : Text) : Option (Text × Text) := do
  let (time, text) ← time? text
  let (offset, text) ← offset? text
  some (time ++ offset, text)

/-- Reads a moment: a date, a time of day, or both, and then perhaps an offset. -/
def moment? (text : Text) : Option (Text × Text) :=
  match date? text with
  | some (date, rest) =>
    match rest with
    | separator :: after =>
      if separator = 'T' ∨ separator = 't' ∨ (separator = ' ' ∧ after.head?.any Char.isDigit) then
        (clock? after).map fun (clock, rest) => (date ++ 'T' :: clock, rest)
      else some (date, rest)
    | [] => some (date, [])
  | none => time? text

end Folio.Toml
