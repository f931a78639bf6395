import Folio.Pattern.Class
import Folio.Pattern.Room

/-!
# Reading patterns

The written form of a pattern is read sign by sign. What is read so far at each level of
parentheses is kept on a stack, so that the end of the text or a closing parenthesis can say
whether every parenthesis has its partner.
-/

namespace Folio.Pattern

/-- How often a pattern is repeated; no upper bound means any number of times. -/
structure Bounds where
  least : Nat
  most : Option Nat
deriving DecidableEq, Repr

/-- How many copies of a pattern are written out within bounds. -/
def Bounds.copies (bounds : Bounds) : Nat :=
  bounds.most.getD (max bounds.least 1)

/-- How deep forms may stand one inside the other. -/
def deepest : Nat := 250

/-- A sign of a written pattern. -/
inductive Sign where
  | atom (pattern : Nested Pattern)
  | openGroup (captures : Bool)
  | closeGroup
  | bar
  | repeated (bounds : Bounds) (eager : Bool)
deriving Repr

/-- Reads a count, which may have blanks around it and fits into 32 bits. -/
def count? (text : Text) : Option Nat × Text :=
  let (digits, after) := Text.run Char.isDigit (Text.trimStart text)
  ((Entity.number? digits).filter fun count => count < UInt32.size, Text.trimStart after)

/-- Reads what a counted repetition says of its upper bound, after the lower bound. Without a comma
they are the same, and a comma alone means that there is no upper bound. -/
def upperBound? (least : Option Nat) : Text → Option (Option Nat) × Text
  | ',' :: '\x7d' :: text => (some none, '\x7d' :: text)
  | ',' :: text => ((count? text).1.map some, (count? text).2)
  | text => (least.map some, text)

/-- Reads the bounds of a counted repetition after the opening brace. -/
def bounds? (text : Text) : Except PatternFault (Bounds × Text) :=
  let (least, text) := count? text
  match upperBound? least text with
  | (most, '\x7d' :: after) =>
    match least, most with
    | some least, some most =>
      if most.all (least ≤ ·) then .ok (⟨least, most⟩, after) else .error .badRepeat
    | _, _ => .error .badRepeat
  | _ => .error .unclosedRepeat

/-- A repetition sign, which a question mark makes the opposite of eager. -/
def repeatSign (bounds : Bounds) : Text → Sign × Text
  | '?' :: text => (.repeated bounds false, text)
  | text => (.repeated bounds true, text)

/-- What an escape is as a pattern of its own. -/
def Escape.pattern : Escape → Pattern
  | .char c => .one (.single c)
  | .oneOf inClass => .one inClass
  | .here place => .here place

/-- Reads the sign that a written pattern starts with. -/
def sign? (c : Char) (text : Text) : Except PatternFault (Sign × Text) :=
  match c with
  | '^' => .ok (.atom ⟨.here .start, 0⟩, text)
  | '$' => .ok (.atom ⟨.here .finish, 0⟩, text)
  | '.' => .ok (.atom ⟨.one .anyInLine, 0⟩, text)
  | '|' => .ok (.bar, text)
  | ')' => .ok (.closeGroup, text)
  | '(' =>
    match text with
    | '?' :: ':' :: after => .ok (.openGroup false, after)
    | '?' :: _ => .error .unknownForm
    | _ => .ok (.openGroup true, text)
  | '[' => do
    let (inClass, after) ← class? text
    .ok (.atom ⟨.one inClass.form, inClass.depth⟩, after)
  | '?' => .ok (repeatSign ⟨0, some 1⟩ text)
  | '*' => .ok (repeatSign ⟨0, none⟩ text)
  | '+' => .ok (repeatSign ⟨1, none⟩ text)
  | '\x7b' => do
    let (bounds, after) ← bounds? text
    .ok (repeatSign bounds after)
  | '\\' => do
    let (escape, after) ← escape? text
    .ok (.atom ⟨escape.pattern, 0⟩, after)
  | c => .ok (.atom ⟨.one (.single c), 0⟩, text)

/-- Patterns one after another. -/
def sequenceOf : List Pattern → Pattern
  | [] => .empty
  | [pattern] => pattern
  | first :: rest => .sequence first (sequenceOf rest)

/-- The first pattern that matches counts. -/
def eitherOf : List Pattern → Pattern
  | [] => .empty
  | [pattern] => pattern
  | first :: rest => .either first (eitherOf rest)

/-- Patterns one after another. -/
def Nested.sequence (patterns : List (Nested Pattern)) : Nested Pattern :=
  ⟨sequenceOf (patterns.map Nested.form), joinedDepth patterns⟩

/-- Alternatives. -/
def Nested.either (patterns : List (Nested Pattern)) : Nested Pattern :=
  ⟨eitherOf (patterns.map Nested.form), joinedDepth patterns⟩

/-- What has been read at one level of parentheses: the finished alternatives and the parts of
the current one, both latest first. -/
structure Level where
  group : Option Nat
  alternatives : List (Nested Pattern)
  parts : List (Nested Pattern)

/-- Everything read at a level. -/
def Level.inside (level : Level) : Nested Pattern :=
  .either (.sequence level.parts.reverse :: level.alternatives).reverse

/-- Everything read at a level, as a group. -/
def Level.finish (level : Level) : Nested Pattern :=
  let inner := level.inside
  match level.group with
  | some index => ⟨.group index inner.form, inner.depth + 1⟩
  | none => ⟨inner.form, inner.depth + 1⟩

/-- Whether a pattern takes nothing but the empty text. -/
def takesNothing : Pattern → Bool
  | .empty | .here _ => true
  | .one _ => false
  | .sequence first second | .either first second => first.takesNothing && second.takesNothing
  | .group _ inner | .optional _ inner | .repeatAny _ inner | .repeatSome _ inner =>
    inner.takesNothing

/-- The bounds that count for a pattern: of one that takes nothing a round is as good as several. -/
def Bounds.forRounds (bounds : Bounds) (inner : Pattern) : Bounds :=
  if inner.takesNothing then ⟨min bounds.least 1, some (min (bounds.most.getD 1) 1)⟩ else bounds

/-- A pattern repeated at most so many times, each round inside the one before. -/
def atMost (eager : Bool) (inner : Pattern) : Nat → Pattern
  | 0 => .empty
  | count + 1 => .optional eager (.sequence inner (atMost eager inner count))

/-- A pattern repeated within bounds. -/
def bounded (bounds : Bounds) (eager : Bool) (inner : Pattern) : Pattern :=
  match bounds.least, bounds.most with
  | 0, some 1 => .optional eager inner
  | 0, none => .repeatAny eager inner
  | 1, none => .repeatSome eager inner
  | least, none => sequenceOf (List.replicate (least - 1) inner ++ [.repeatSome eager inner])
  | least, some most =>
    sequenceOf (List.replicate least inner ++ [atMost eager inner (most - least)])

/-- A repeated pattern. One that would take too much room is not written out. -/
def Nested.repeated? (bounds : Bounds) (eager : Bool) (inner : Nested Pattern) :
    Except PatternFault (Nested Pattern) :=
  if largestRoom < (bounds.forRounds inner.form).copies * inner.form.room then .error .tooLarge
  else .ok ⟨bounded (bounds.forRounds inner.form) eager inner.form, inner.depth + 1⟩

/-- The levels that are open, innermost first, and how many groups have been opened. -/
structure Reading where
  inner : Level
  outer : List Level
  groups : Nat

/-- Reads one sign. -/
def Reading.step (reading : Reading) : Sign → Except PatternFault Reading
  | .atom pattern =>
    .ok { reading with inner := { reading.inner with parts := pattern :: reading.inner.parts } }
  | .bar =>
    .ok { reading with
      inner :=
        { reading.inner with
          alternatives := .sequence reading.inner.parts.reverse :: reading.inner.alternatives
          parts := [] } }
  | .openGroup captures =>
    let groups := if captures then reading.groups + 1 else reading.groups
    .ok ⟨⟨if captures then some groups else none, [], []⟩, reading.inner :: reading.outer, groups⟩
  | .closeGroup =>
    match reading.outer with
    | [] => .error .unopenedGroup
    | level :: outer =>
      .ok { reading with
        inner := { level with parts := reading.inner.finish :: level.parts }
        outer := outer }
  | .repeated bounds eager =>
    match reading.inner.parts with
    | [] => .error .nothingToRepeat
    | last :: parts => do
      let repeated ← last.repeated? bounds eager
      .ok { reading with inner := { reading.inner with parts := repeated :: parts } }

/-- Reads the signs of a written pattern, at most `fuel`. -/
def readSigns : (fuel : Nat) → Reading → Text → Except PatternFault Reading
  | _, reading, [] => .ok reading
  | 0, reading, _ => .ok reading
  | fuel + 1, reading, c :: text => do
    let (sign, after) ← sign? c text
    readSigns fuel (← reading.step sign) after

/-- The pattern that a text writes, and the number of its groups. -/
def ofText (text : Text) : Except PatternFault (Pattern × Nat) := do
  let reading ← readSigns text.length ⟨⟨none, [], []⟩, [], 0⟩ text
  if !reading.outer.isEmpty then .error .unclosedGroup
  else
    let whole := reading.inner.inside
    if deepest < whole.depth then .error .tooDeep
    else if largestRoom < whole.form.room then .error .tooLarge
    else .ok (whole.form, reading.groups)

end Folio.Pattern
