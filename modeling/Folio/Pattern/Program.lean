import Folio.Pattern.Basic

/-!
# Matching patterns

A pattern is turned into a program whose steps read a character, choose between two ways, note a
position or test a place. All ways through the program are followed side by side, in the order
of preference, so that a match takes time in proportion to the text. At one position no step is
entered twice: the preferred way to it counts.

The first match from the left is found, and among the matches that start there the preferred
one.
-/

namespace Folio.Pattern

/-- A step of a program; numbers are positions of steps. -/
inductive Step where
  | read (inClass : CharClass) (next : Nat)
  | choose (preferred other : Nat)
  | note (slot : Nat) (next : Nat)
  | test (place : Place) (next : Nat)
  | accept
deriving Repr

/-- A program. -/
abbrev Program := Array Step

/-- Adds a step and gives its position. -/
def addStep (step : Step) (program : Program) : Nat × Program :=
  (program.size, program.push step)

/-- The step that goes on with a round or ends the repetition. -/
def chooseRound (eager : Bool) (round done : Nat) : Step :=
  if eager then .choose round done else .choose done round

/-- Adds the steps of a pattern that goes on at `next`, and gives the position to enter at. A
repetition is a loop that is entered at its first round; skipping it is a choice before. -/
def compile : Pattern → (next : Nat) → Program → Nat × Program
  | .empty, next, program => (next, program)
  | .one inClass, next, program => addStep (.read inClass next) program
  | .here place, next, program => addStep (.test place next) program
  | .sequence first second, next, program =>
    let (entry, program) := compile second next program
    compile first entry program
  | .either first second, next, program =>
    let (preferred, program) := compile first next program
    let (other, program) := compile second next program
    addStep (.choose preferred other) program
  | .group index inner, next, program =>
    let (close, program) := addStep (.note (2 * index + 1) next) program
    let (entry, program) := compile inner close program
    addStep (.note (2 * index) entry) program
  | .optional eager inner, next, program =>
    let (entry, program) := compile inner next program
    addStep (chooseRound eager entry next) program
  | .repeatSome eager inner, next, program =>
    let (loop, program) := addStep .accept program
    let (entry, program) := compile inner loop program
    (entry, program.setIfInBounds loop (chooseRound eager entry next))
  | .repeatAny eager inner, next, program =>
    let (loop, program) := addStep .accept program
    let (entry, program) := compile inner loop program
    addStep (chooseRound eager entry next)
      (program.setIfInBounds loop (chooseRound eager entry next))

/-- The program of a pattern and the position at which it starts. The whole match is group
zero. -/
def programOf (pattern : Pattern) : Nat × Program :=
  let (accept, program) := addStep .accept #[]
  compile (.group 0 pattern) accept program

/-- Noted positions of the text, latest first. -/
abbrev Notes := List (Nat × Nat)

/-- A way through a program that waits for a character or has arrived. -/
structure Thread where
  position : Nat
  notes : Notes

/-- A place in the text. -/
structure Spot where
  index : Nat
  before : Option Char
  after : Option Char

/-- The steps that have been entered at a spot, and the threads found there, latest first. -/
structure Frontier where
  entered : List Nat
  threads : List Thread

/-- Follows all ways from a position up to steps that read a character, at most `fuel` steps
deep. -/
def follow (program : Program) (spot : Spot) :
    (fuel : Nat) → (position : Nat) → Notes → Frontier → Frontier
  | 0, _, _, frontier => frontier
  | fuel + 1, position, notes, frontier =>
    if frontier.entered.contains position then frontier
    else
      let frontier := { frontier with entered := position :: frontier.entered }
      match program[position]? with
      | none => frontier
      | some (.choose preferred other) =>
        follow program spot fuel other notes (follow program spot fuel preferred notes frontier)
      | some (.note slot next) =>
        follow program spot fuel next ((slot, spot.index) :: notes) frontier
      | some (.test place next) =>
        if place.isBetween spot.before spot.after then
          follow program spot fuel next notes frontier
        else frontier
      | some (.read _ _) => { frontier with threads := ⟨position, notes⟩ :: frontier.threads }
      | some .accept => { frontier with threads := ⟨position, notes⟩ :: frontier.threads }

/-- Splits threads, in order of preference, at the first one that has arrived: the ones before
it, and its notes. -/
def arrived (program : Program) : List Thread → List Thread × Option Notes
  | [] => ([], none)
  | thread :: rest =>
    match program[thread.position]? with
    | some .accept => ([], some thread.notes)
    | _ =>
      let (before, notes) := arrived program rest
      (thread :: before, notes)

/-- Lets all threads read a character. -/
def readChar (program : Program) (c : Char) (spot : Spot) (threads : List Thread) : Frontier :=
  threads.foldl
    (fun (frontier : Frontier) (thread : Thread) =>
      match program[thread.position]? with
      | some (.read inClass next) =>
        if inClass.holds c then
          follow program spot (program.size + 1) next thread.notes frontier
        else frontier
      | _ => frontier)
    ⟨[], []⟩

/-- The threads at a spot that are preferred to the best match so far, and that match. While
there is none yet, a match may start at the spot. -/
def arrive (start : Nat) (program : Program) (spot : Spot) (frontier : Frontier)
    (best : Option Notes) : List Thread × Option Notes :=
  let frontier :=
    if best.isNone then follow program spot (program.size + 1) start [] frontier else frontier
  let (threads, notes) := arrived program frontier.threads.reverse
  (threads, notes.orElse fun _ => best)

/-- Runs a program on the rest of a text from a spot. -/
def runFrom (start : Nat) (program : Program) (index : Nat) (before : Option Char)
    (frontier : Frontier) (best : Option Notes) : Text → Option Notes
  | [] => (arrive start program ⟨index, before, none⟩ frontier best).2
  | c :: rest =>
    let (threads, best) := arrive start program ⟨index, before, some c⟩ frontier best
    runFrom start program (index + 1) (some c)
      (readChar program c ⟨index + 1, some c, rest.head?⟩ threads) best rest

/-- The part of a text that a group took, if the positions of both its ends are noted. -/
def capture (text : Text) (notes : Notes) (group : Nat) : Option Text := do
  let first ← notes.lookup (2 * group)
  let last ← notes.lookup (2 * group + 1)
  some ((text.drop first).take (last - first))

/-- What the first match of a pattern with so many groups takes out of a text. -/
def captures? (pattern : Pattern) (groups : Nat) (text : Text) : Option Captures :=
  let (start, program) := programOf pattern
  (runFrom start program 0 none ⟨[], []⟩ none text).map fun notes =>
    (List.range (groups + 1)).map (capture text notes)

end Folio.Pattern
