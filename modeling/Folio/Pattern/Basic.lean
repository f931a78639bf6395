import Folio.Text.Basic
import Folio.Unicode.Digit
import Folio.Unicode.Word

/-!
# Patterns

A pattern describes texts and marks parts of them as groups. Patterns are made of characters and
character classes, alternatives, repetitions and places such as the start of the text. Classes are
sets of characters, and operators make new ones of them.
-/

namespace Folio

/-- How two sets make a third. -/
inductive SetOperator where
  /-- What is in both. -/
  | both
  /-- What is in the first and not in the second. -/
  | without
  /-- What is in one of them and not in the other. -/
  | oneOnly
deriving DecidableEq, Repr

/-- Whether something is in the set that an operator makes of two others. -/
def SetOperator.holds : SetOperator → Bool → Bool → Bool
  | .both, inFirst, inSecond => inFirst && inSecond
  | .without, inFirst, inSecond => inFirst && !inSecond
  | .oneOnly, inFirst, inSecond => inFirst != inSecond

/-- A class of characters. -/
inductive CharClass where
  | single (c : Char)
  | range (first last : Char)
  | digit
  | word
  | blank
  /-- Every character but a newline. -/
  | anyInLine
  | union (classes : List CharClass)
  | complement (inner : CharClass)
  | combined (operator : SetOperator) (first second : CharClass)
deriving Repr

namespace CharClass

mutual

/-- Whether a character belongs to a class. -/
def holds : CharClass → Char → Bool
  | .single d, c => c == d
  | .range first last, c => first ≤ c && c ≤ last
  | .digit, c => Unicode.isDecimalDigit c
  | .word, c => Unicode.isWordChar c
  | .blank, c => Unicode.isBlank c
  | .anyInLine, c => c != '\n'
  | .union classes, c => anyHolds classes c
  | .complement inner, c => !holds inner c
  | .combined operator first second, c => operator.holds (holds first c) (holds second c)

/-- Whether a character belongs to one of some classes. -/
def anyHolds : List CharClass → Char → Bool
  | [], _ => false
  | first :: rest, c => holds first c || anyHolds rest c

end

end CharClass

/-- A place between two characters. -/
inductive Place where
  | start
  | finish
  /-- Between a word character and another one, or the edge of the text. -/
  | wordEdge
  /-- Anywhere else. -/
  | noWordEdge
deriving DecidableEq, Repr

/-- Whether a place lies between two characters; an edge of the text has no character. -/
def Place.isBetween (before after : Option Char) : Place → Bool
  | .start => before.isNone
  | .finish => after.isNone
  | .wordEdge => before.any Unicode.isWordChar != after.any Unicode.isWordChar
  | .noWordEdge => before.any Unicode.isWordChar == after.any Unicode.isWordChar

/-- A pattern. A repetition that is eager tries more rounds before fewer. -/
inductive Pattern where
  | empty
  | one (inClass : CharClass)
  | here (place : Place)
  | sequence (first second : Pattern)
  | either (first second : Pattern)
  | group (index : Nat) (inner : Pattern)
  | optional (eager : Bool) (inner : Pattern)
  | repeatAny (eager : Bool) (inner : Pattern)
  | repeatSome (eager : Bool) (inner : Pattern)
deriving Repr

/-- The parts of a text that a match takes out: the whole match first, then the groups. A group
that took no part has none. -/
abbrev Captures := List (Option Text)

end Folio
