import Folio.Unicode.Blank

/-!
# Texts

Every pass of the library reads and writes texts as lists of characters. This module has the
operations that look for a fixed run of characters: at the start of a text, at its first
occurrence, at every occurrence.
-/

namespace Folio

/-- A text is the list of its characters. -/
abbrev Text := List Char

namespace Text

/-- What is left of `text` after `lead`, if `text` starts with it. -/
def dropLead? : (lead text : Text) → Option Text
  | [], text => some text
  | _ :: _, [] => none
  | c :: lead, d :: text => if c = d then dropLead? lead text else none

@[simp]
theorem dropLead?_nil (text : Text) : dropLead? [] text = some text := by
  cases text <;> rfl

@[simp]
theorem dropLead?_cons_nil (c : Char) (lead : Text) : dropLead? (c :: lead) [] = none :=
  rfl

@[simp]
theorem dropLead?_cons_cons (c d : Char) (lead text : Text) :
    dropLead? (c :: lead) (d :: text) = if c = d then dropLead? lead text else none :=
  rfl

/-- Dropping a lead and putting it back gives the text again, and nothing else can be dropped. -/
theorem dropLead?_eq_some_iff {lead text rest : Text} :
    dropLead? lead text = some rest ↔ text = lead ++ rest := by
  induction lead generalizing text with
  | nil => simp [eq_comm]
  | cons c lead inductionHypothesis =>
    cases text with
    | nil => simp
    | cons d text =>
      by_cases same : c = d
      · simp [same, inductionHypothesis]
      · simp [same, Ne.symm same]

/-- Whether `text` starts with `lead`. -/
def startsWith (lead text : Text) : Bool :=
  (dropLead? lead text).isSome

/-- The texts before and after the first occurrence of `mark`. -/
def cutAt? (mark : Text) : Text → Option (Text × Text)
  | [] => (dropLead? mark []).map ([], ·)
  | c :: text =>
    match dropLead? mark (c :: text) with
    | some after => some ([], after)
    | none => (cutAt? mark text).map fun (before, after) => (c :: before, after)

/-- The two sides of a cut, joined by the mark, are the text. -/
theorem eq_of_cutAt? {mark text before after : Text}
    (cut : cutAt? mark text = some (before, after)) : text = before ++ mark ++ after := by
  induction text generalizing before with
  | nil =>
    simp only [cutAt?, Option.map_eq_some_iff, Prod.mk.injEq] at cut
    obtain ⟨rest, found, rfl, rfl⟩ := cut
    simpa using dropLead?_eq_some_iff.1 found
  | cons c text inductionHypothesis =>
    unfold cutAt? at cut
    split at cut
    · next rest found =>
      simp only [Option.some.injEq, Prod.mk.injEq] at cut
      obtain ⟨rfl, rfl⟩ := cut
      simpa using dropLead?_eq_some_iff.1 found
    · simp only [Option.map_eq_some_iff, Prod.mk.injEq] at cut
      obtain ⟨⟨head, tail⟩, found, rfl, rfl⟩ := cut
      simp [inductionHypothesis found]

/-- Whether `mark` occurs in `text`. -/
def hasPart (mark text : Text) : Bool :=
  (cutAt? mark text).isSome

/-- Every occurrence of a mark replaced, from left to right; `skip` characters of an occurrence
that has been replaced are still to be passed over. -/
def replaceFrom (mark replacement : Text) : (skip : Nat) → Text → Text
  | _, [] => []
  | skip + 1, _ :: text => replaceFrom mark replacement skip text
  | 0, c :: text =>
    if startsWith mark (c :: text) then
      replacement ++ replaceFrom mark replacement (mark.length - 1) text
    else
      c :: replaceFrom mark replacement 0 text

/-- Every occurrence of a non-empty mark replaced, from left to right. -/
def replaceAll (mark replacement text : Text) : Text :=
  replaceFrom mark replacement 0 text

/-- The text without its leading whitespace. -/
def trimStart (text : Text) : Text :=
  text.dropWhile Unicode.isBlank

/-- The text without its trailing characters of a class. -/
def dropRightWhile (inClass : Char → Bool) (text : Text) : Text :=
  (text.reverse.dropWhile inClass).reverse

/-- The longest start of a text whose characters are in a class, and what is left. -/
def run (inClass : Char → Bool) (text : Text) : Text × Text :=
  (text.takeWhile inClass, text.dropWhile inClass)

theorem run_append (inClass : Char → Bool) (text : Text) :
    (run inClass text).1 ++ (run inClass text).2 = text :=
  List.takeWhile_append_dropWhile

/-- The word before the first whitespace, and what follows that one character. -/
def cutAtBlank? : Text → Option (Text × Text)
  | [] => none
  | c :: text =>
    if Unicode.isBlank c then some ([], text)
    else (cutAtBlank? text).map fun (before, after) => (c :: before, after)

/-- The decimal digits of a number. -/
def ofNat (n : Nat) : Text :=
  Nat.toDigits 10 n

/-- The parts of a text between the occurrences of a character; there is always at least one. -/
def splitAtEach (mark : Char) : Text → List Text
  | [] => [[]]
  | c :: text =>
    if c = mark then [] :: splitAtEach mark text
    else
      match splitAtEach mark text with
      | [] => [[c]]
      | first :: rest => (c :: first) :: rest

/-- Texts written one after another with a separator between neighbours. -/
def joinWith (separator : Text) : List Text → Text
  | [] => []
  | [text] => text
  | text :: rest => text ++ separator ++ joinWith separator rest

end Text

end Folio
