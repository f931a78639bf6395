import Folio.Pattern.Escape

/-!
# Reading classes

A class is written between brackets. Its members are characters, ranges, escapes, classes that have
a name and classes in brackets of their own. What stands side by side is united, and operators
combine what stands before and behind them, from left to right. What is read so far at each level of
brackets is kept on a stack.
-/

namespace Folio.Pattern

/-- A form together with how many forms stand one inside the other where it is written: classes,
unions and operators inside of classes, repetitions, groups, sequences and alternatives. -/
structure Nested (α : Type) where
  form : α
  depth : Nat
deriving Repr

/-- The greatest depth of some forms. -/
def greatestDepth {α : Type} (forms : List (Nested α)) : Nat :=
  (forms.map Nested.depth).foldl max 0

/-- The depth of a form that several others make; a single one makes none. -/
def joinedDepth {α : Type} (forms : List (Nested α)) : Nat :=
  greatestDepth forms + (if forms.length > 1 then 1 else 0)

/-! ## Members -/

/-- The classes that have a name, with the ranges of their characters. -/
def namedClasses : List (Text × List (Char × Char)) :=
  [("alnum".toList, [('0', '9'), ('A', 'Z'), ('a', 'z')]),
   ("alpha".toList, [('A', 'Z'), ('a', 'z')]),
   ("ascii".toList, [('\x00', '\x7f')]),
   ("blank".toList, [('\t', '\t'), (' ', ' ')]),
   ("cntrl".toList, [('\x00', '\x1f'), ('\x7f', '\x7f')]),
   ("digit".toList, [('0', '9')]),
   ("graph".toList, [('!', '~')]),
   ("lower".toList, [('a', 'z')]),
   ("print".toList, [(' ', '~')]),
   ("punct".toList, [('!', '/'), (':', '@'), ('[', '\x60'), ('\x7b', '~')]),
   ("space".toList, [('\t', '\r'), (' ', ' ')]),
   ("upper".toList, [('A', 'Z')]),
   ("word".toList, [('0', '9'), ('A', 'Z'), ('_', '_'), ('a', 'z')]),
   ("xdigit".toList, [('0', '9'), ('A', 'F'), ('a', 'f')])]

/-- The characters in one of some ranges. -/
def inRanges (ranges : List (Char × Char)) : CharClass :=
  .union (ranges.map fun range => .range range.1 range.2)

/-- A class or, behind a caret, its complement. -/
def complementIf (isComplement : Bool) (inClass : CharClass) : CharClass :=
  if isComplement then .complement inClass else inClass

/-- Whether a text starts with a caret, and what is behind it. -/
def caret : Text → Bool × Text
  | '^' :: text => (true, text)
  | text => (false, text)

/-- Reads a class that has a name, after an opening bracket: the name between colons and the closing
bracket. -/
def namedClass? (text : Text) : Option (CharClass × Text) := do
  let (isComplement, text) := caret (← Text.dropLead? [':'] text)
  let (name, after) ← Text.cutAt? [':'] text
  let after ← Text.dropLead? [']'] after
  let ranges ← namedClasses.lookup name
  some (complementIf isComplement (inRanges ranges), after)

/-- Reads a character or an escape of a class. -/
def item? : Text → Except PatternFault (Escape × Text)
  | [] => .error .unclosedClass
  | '\\' :: text => escape? text
  | c :: text => .ok (.char c, text)

/-- What a single character or escape is as a class. A place is none. -/
def Escape.member? : Escape → Except PatternFault CharClass
  | .char c => .ok (.single c)
  | .oneOf inClass => .ok inClass
  | .here _ => .error .badEscape

/-- The characters from one to another. -/
def range? : Escape → Escape → Except PatternFault CharClass
  | .char first, .char last => if first ≤ last then .ok (.range first last) else .error .badRange
  | _, _ => .error .badRange

/-- What is behind the hyphen of a range. A hyphen before the closing bracket is no such hyphen, nor
is one before another, with which it is an operator. -/
def behindHyphen? : Text → Option Text
  | '-' :: ']' :: _ | '-' :: '-' :: _ => none
  | '-' :: text => some text
  | _ => none

/-- Reads a character, an escape or a range of a class. -/
def member? (text : Text) : Except PatternFault (CharClass × Text) := do
  let (first, after) ← item? text
  match behindHyphen? after with
  | some text =>
    let (last, after) ← item? text
    .ok (← range? first last, after)
  | none => .ok (← first.member?, after)

/-! ## Levels of brackets -/

/-- The characters that belong to one of some classes. -/
def unionOf : List CharClass → CharClass
  | [inClass] => inClass
  | classes => .union classes

/-- Members side by side. -/
def Nested.union (members : List (Nested CharClass)) : Nested CharClass :=
  ⟨unionOf (members.map Nested.form), joinedDepth members⟩

/-- What has been read at one level of brackets: what stands before the latest operator, and the
members behind it, latest first. -/
structure ClassLevel where
  isComplement : Bool
  before : Option (Nested CharClass × SetOperator)
  members : List (Nested CharClass)

namespace ClassLevel

/-- Everything read at a level. -/
def inside (level : ClassLevel) : Nested CharClass :=
  let last := .union level.members.reverse
  match level.before with
  | some (first, operator) =>
    ⟨.combined operator first.form last.form, max first.depth last.depth + 1⟩
  | none => last

/-- Everything read at a level, as a class in brackets. -/
def finish (level : ClassLevel) : Nested CharClass :=
  ⟨complementIf level.isComplement level.inside.form, level.inside.depth + 1⟩

/-- A level with one more member. -/
def add (level : ClassLevel) (member : Nested CharClass) : ClassLevel :=
  { level with members := member :: level.members }

/-- A level with an operator behind everything read. -/
def operate (level : ClassLevel) (operator : SetOperator) : ClassLevel :=
  { level with before := some (level.inside, operator), members := [] }

end ClassLevel

/-- Opens a level after an opening bracket. Hyphens that come first are characters, and so is a
closing bracket that comes first, so that no class is empty. -/
def openLevel (text : Text) : ClassLevel × Text :=
  let (isComplement, text) := caret text
  match Text.run (· == '-') text with
  | ([], ']' :: after) => (⟨isComplement, none, [⟨.single ']', 0⟩]⟩, after)
  | (hyphens, after) => (⟨isComplement, none, hyphens.map fun c => ⟨.single c, 0⟩⟩, after)

/-! ## Signs -/

/-- A sign of a written class. -/
inductive ClassSign where
  | member (inClass : CharClass)
  | openClass (level : ClassLevel)
  | closeClass
  | operator (operator : SetOperator)

/-- Reads the sign that the rest of a class starts with. -/
def classSign? : Text → Except PatternFault (ClassSign × Text)
  | '[' :: text =>
    match namedClass? text with
    | some (inClass, after) => .ok (.member inClass, after)
    | none => .ok (.openClass (openLevel text).1, (openLevel text).2)
  | ']' :: text => .ok (.closeClass, text)
  | '&' :: '&' :: text => .ok (.operator .both, text)
  | '-' :: '-' :: text => .ok (.operator .without, text)
  | '~' :: '~' :: text => .ok (.operator .oneOnly, text)
  | text => (member? text).map fun (inClass, after) => (.member inClass, after)

/-- Reads the rest of a class whose levels are open, innermost first, at most `fuel` signs. -/
def readClass : (fuel : Nat) → ClassLevel → List ClassLevel → Text →
    Except PatternFault (Nested CharClass × Text)
  | 0, _, _, _ => .error .unclosedClass
  | fuel + 1, level, levels, text => do
    match ← classSign? text with
    | (.member inClass, after) => readClass fuel (level.add ⟨inClass, 0⟩) levels after
    | (.operator operator, after) => readClass fuel (level.operate operator) levels after
    | (.openClass inner, after) => readClass fuel inner (level :: levels) after
    | (.closeClass, after) =>
      match levels with
      | [] => .ok (level.finish, after)
      | outer :: levels => readClass fuel (outer.add level.finish) levels after

/-- Reads a class after its opening bracket. -/
def class? (text : Text) : Except PatternFault (Nested CharClass × Text) :=
  let (level, rest) := openLevel text
  readClass (rest.length + 1) level [] rest

end Folio.Pattern
