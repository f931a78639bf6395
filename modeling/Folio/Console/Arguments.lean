import Folio.Text.Basic

/-!
# Arguments

The arguments of a program are options and plain words. An option has a name after two hyphens,
or a letter after one; letters may be written together. A value follows an option after an equals
sign, right after its letter, or as the next argument, which then must not look like an option.
After two hyphens alone there are only words.

Reading goes on to the end whatever it meets: what cannot be read becomes an item of its own, so
that whoever takes the items in order finds it at its place.
-/

namespace Folio.Console

/-- An option that a command knows. -/
structure OptionForm (κ : Type) where
  key : κ
  letter : Option Char
  name : Text
  /-- What the value of the option is called; an option without it takes no value. -/
  valueName : Option Text
  about : Text
deriving Repr

/-- What arguments are read as. -/
inductive Item (κ : Type) where
  | word (text : Text)
  | flag (key : κ)
  | setting (key : κ) (value : Text)
  /-- An option that is not known, lacks its value, or has one that it does not take. -/
  | broken
deriving DecidableEq, Repr

/-- Whether an argument looks like an option. A single hyphen does not. -/
def isOptionLike (argument : Text) : Bool :=
  argument.head? == some '-' && 1 < argument.length

variable {κ : Type}

/-- The value that stands right behind a letter, with or without an equals sign. -/
def attachedValue : Text → Text
  | '=' :: value => value
  | value => value

/-- Reads letters that are written together, and gives the option that still waits for its
value. -/
def readLetters (forms : List (OptionForm κ)) : Text → List (Item κ) × Option κ
  | [] => ([], none)
  | letter :: rest =>
    match forms.find? fun form => form.letter == some letter with
    | none => ([.broken], none)
    | some form =>
      if form.valueName.isNone then
        let (items, waiting) := readLetters forms rest
        (.flag form.key :: items, waiting)
      else if rest.isEmpty then ([], some form.key)
      else ([.setting form.key (attachedValue rest)], none)

/-- Reads what follows two hyphens, and gives the option that still waits for its value. -/
def readName (forms : List (OptionForm κ)) (text : Text) : List (Item κ) × Option κ :=
  let (name, value) := Text.run (· != '=') text
  match forms.find? fun form => form.name == name with
  | none => ([.broken], none)
  | some form =>
    match form.valueName, value with
    | none, [] => ([.flag form.key], none)
    | none, _ :: _ => ([.broken], none)
    | some _, [] => ([], some form.key)
    | some _, _ :: value => ([.setting form.key value], none)

/-- Reads one argument when no option waits for its value. -/
def readArgument (forms : List (OptionForm κ)) (argument : Text) : List (Item κ) × Option κ :=
  match argument with
  | '-' :: '-' :: text => readName forms text
  | ['-'] => ([.word ['-']], none)
  | '-' :: letters => readLetters forms letters
  | text => ([.word text], none)

/-- Reads arguments, the first of which may be the value that an option waits for. -/
def readFrom (forms : List (OptionForm κ)) : (waiting : Option κ) → List Text → List (Item κ)
  | none, [] => []
  | some _, [] => [.broken]
  | some key, argument :: rest =>
    (if isOptionLike argument then .broken else .setting key argument) :: readFrom forms none rest
  | none, argument :: rest =>
    if argument = ['-', '-'] then rest.map .word
    else
      let (items, waiting) := readArgument forms argument
      items ++ readFrom forms waiting rest

/-- Reads arguments. -/
def readArguments (forms : List (OptionForm κ)) (arguments : List Text) : List (Item κ) :=
  readFrom forms none arguments

@[simp]
theorem readArguments_nil (forms : List (OptionForm κ)) : readArguments forms [] = [] :=
  rfl

/-- After two hyphens alone there are only words. -/
theorem readArguments_hyphens (forms : List (OptionForm κ)) (words : List Text) :
    readArguments forms (['-', '-'] :: words) = words.map .word := by
  simp [readArguments, readFrom]

end Folio.Console
