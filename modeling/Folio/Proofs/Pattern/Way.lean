import Folio.Dictionary
import Folio.Pattern.Program
import Folio.Proofs.Pattern.Taking

/-!
# Ways through a program

In the program of a pattern every construct has an entry and an exit, and it does its work: a way
from the entry to the exit lies between two positions of the text exactly if the construct takes
what stands between them. Such a way follows a derivation, and it notes for every group the latest
mark that the derivation leaves.
-/

namespace Folio.Pattern

/-! ## Ways -/

/-- The spot at a position of a text. -/
def spotAt (text : Text) (index : Nat) : Spot :=
  ⟨index, charBefore? text index, text[index]?⟩

/-- A thread goes on at a spot without reading a character. -/
inductive Enters (program : Program) (spot : Spot) : Thread → Thread → Prop
  | preferred {position preferred other : Nat} {notes : Notes}
      (isStep : program[position]? = some (.choose preferred other)) :
      Enters program spot ⟨position, notes⟩ ⟨preferred, notes⟩
  | other {position preferred other : Nat} {notes : Notes}
      (isStep : program[position]? = some (.choose preferred other)) :
      Enters program spot ⟨position, notes⟩ ⟨other, notes⟩
  | note {position slot next : Nat} {notes : Notes}
      (isStep : program[position]? = some (.note slot next)) :
      Enters program spot ⟨position, notes⟩ ⟨next, (slot, spot.index) :: notes⟩
  | test {position next : Nat} {place : Place} {notes : Notes}
      (isStep : program[position]? = some (.test place next))
      (holds : place.isBetween spot.before spot.after = true) :
      Enters program spot ⟨position, notes⟩ ⟨next, notes⟩

/-- A thread that stands at a position of a text goes on. -/
inductive Moves (program : Program) (text : Text) : Nat × Thread → Nat × Thread → Prop
  | enter {index : Nat} {thread other : Thread}
      (enters : Enters program (spotAt text index) thread other) :
      Moves program text (index, thread) (index, other)
  | read {index position next : Nat} {notes : Notes} {inClass : CharClass} {c : Char}
      (isStep : program[position]? = some (.read inClass next)) (isChar : text[index]? = some c)
      (holds : inClass.holds c = true) :
      Moves program text (index, ⟨position, notes⟩) (index + 1, ⟨next, notes⟩)

/-- A way of so many moves. -/
inductive Way (program : Program) (text : Text) : Nat → Nat × Thread → Nat × Thread → Prop
  | stay (stand : Nat × Thread) : Way program text 0 stand stand
  | go {count : Nat} {stand next goal : Nat × Thread} (moves : Moves program text stand next)
      (way : Way program text count next goal) : Way program text (count + 1) stand goal

/-- A thread leads to another by some way. -/
abbrev Leads (program : Program) (text : Text) : Nat × Thread → Nat × Thread → Prop :=
  Relation.ReflTransGen (Moves program text)

variable {program : Program} {text : Text} {index position : Nat} {notes : Notes}
  {stand goal : Nat × Thread}

theorem exists_way_of_leads (leads : Leads program text stand goal) :
    ∃ count, Way program text count stand goal := by
  induction leads using Relation.ReflTransGen.head_induction_on with
  | refl => exact ⟨0, .stay goal⟩
  | head moves _ inductionHypothesis =>
    obtain ⟨count, way⟩ := inductionHypothesis
    exact ⟨count + 1, .go moves way⟩

/-- Where a thread with some notes can go on from a step. -/
def Step.Allows (text : Text) (index : Nat) (notes : Notes) (goal : Nat × Thread) : Step → Prop
  | .read inClass next =>
    (∃ c, text[index]? = some c ∧ inClass.holds c = true) ∧ goal = (index + 1, ⟨next, notes⟩)
  | .choose preferred other => goal = (index, ⟨preferred, notes⟩) ∨ goal = (index, ⟨other, notes⟩)
  | .note slot next => goal = (index, ⟨next, (slot, index) :: notes⟩)
  | .test place next =>
    place.isBetween (charBefore? text index) text[index]? = true ∧ goal = (index, ⟨next, notes⟩)
  | .accept => False

/-- A thread goes on as its step allows. -/
theorem moves_iff {step : Step} (isStep : program[position]? = some step) :
    Moves program text (index, ⟨position, notes⟩) goal ↔ step.Allows text index notes goal := by
  constructor
  · intro moves
    cases moves with
    | enter enters =>
      cases enters with
      | preferred found =>
        cases isStep.symm.trans found
        exact .inl rfl
      | other found =>
        cases isStep.symm.trans found
        exact .inr rfl
      | note found =>
        cases isStep.symm.trans found
        rfl
      | test found holds =>
        cases isStep.symm.trans found
        exact ⟨holds, rfl⟩
    | read found isChar holds =>
      cases isStep.symm.trans found
      exact ⟨⟨_, isChar, holds⟩, rfl⟩
  · intro allows
    cases step with
    | read inClass next =>
      obtain ⟨⟨c, isChar, holds⟩, rfl⟩ := allows
      exact .read isStep isChar holds
    | choose preferred other =>
      rcases allows with rfl | rfl
      · exact .enter (.preferred isStep)
      · exact .enter (.other isStep)
    | note slot next =>
      cases allows
      exact .enter (.note isStep)
    | test place next =>
      obtain ⟨holds, rfl⟩ := allows
      exact .enter (.test isStep holds)
    | accept => cases allows

theorem moves_chooseRound_iff {eager : Bool} {round done : Nat}
    (isStep : program[position]? = some (chooseRound eager round done)) :
    Moves program text (index, ⟨position, notes⟩) goal ↔
      goal = (index, ⟨round, notes⟩) ∨ goal = (index, ⟨done, notes⟩) := by
  rw [moves_iff isStep]
  cases eager with
  | true => rfl
  | false => exact Or.comm

/-- A way to a step that accepts goes on from every step before. -/
theorem Way.exists_moves {count : Nat} {step : Step} (way : Way program text count stand goal)
    (isStep : program[stand.2.position]? = some step) (goesOn : step ≠ .accept)
    (accepts : program[goal.2.position]? = some .accept) :
    ∃ rest next, count = rest + 1 ∧ Moves program text stand next ∧
      Way program text rest next goal := by
  cases way with
  | stay => exact absurd (Option.some.inj (isStep.symm.trans accepts)) goesOn
  | go moves way => exact ⟨_, _, rfl, moves, way⟩

theorem chooseRound_ne_accept (eager : Bool) (round done : Nat) :
    chooseRound eager round done ≠ .accept := by
  cases eager <;> exact Step.noConfusion

/-! ## Constructs at work -/

/-- The positions that are noted for a group. -/
def noted (notes : Notes) (number : Nat) : Option Nat × Option Nat :=
  (notes.lookup (2 * number), notes.lookup (2 * number + 1))

section Noted

variable (notes : Notes) (index : Nat) (number : Nat)

theorem noted_first_cons :
    noted ((2 * number, index) :: notes) number = (some index, (noted notes number).2) := by
  have apart : 2 * number + 1 ≠ 2 * number := Nat.succ_ne_self _
  rw [noted, Dictionary.lookup_cons_ite, Dictionary.lookup_cons_ite, if_pos rfl, if_neg apart]
  rfl

theorem noted_last_cons :
    noted ((2 * number + 1, index) :: notes) number = ((noted notes number).1, some index) := by
  have apart : 2 * number ≠ 2 * number + 1 := (Nat.succ_ne_self _).symm
  rw [noted, Dictionary.lookup_cons_ite, Dictionary.lookup_cons_ite, if_neg apart, if_pos rfl]
  rfl

variable {number} {other : Nat} (different : other ≠ number)

include different

theorem noted_first_cons_of_ne :
    noted ((2 * number, index) :: notes) other = noted notes other := by
  have first : 2 * other ≠ 2 * number := by omega
  have last : 2 * other + 1 ≠ 2 * number := by omega
  rw [noted, Dictionary.lookup_cons_ite, Dictionary.lookup_cons_ite, if_neg first, if_neg last]
  rfl

theorem noted_last_cons_of_ne :
    noted ((2 * number + 1, index) :: notes) other = noted notes other := by
  have first : 2 * other ≠ 2 * number + 1 := by omega
  have last : 2 * other + 1 ≠ 2 * number + 1 := by omega
  rw [noted, Dictionary.lookup_cons_ite, Dictionary.lookup_cons_ite, if_neg first, if_neg last]
  rfl

end Noted

/-- No group stands inside a group of the same number. -/
def AreDistinct (groups : List (Nat × Pattern)) : Prop :=
  ∀ entry ∈ groups, ∀ other ∈ entry.2.groups, other.1 ≠ entry.1

theorem AreDistinct.mono {groups more : List (Nat × Pattern)} (distinct : AreDistinct more)
    (within : groups ⊆ more) : AreDistinct groups :=
  fun entry member => distinct entry (within member)

/-- Marks have been noted: for every number the ends of its latest mark, and for a number without a
mark what was noted before. -/
def Adds (marks : Marks) (before after : Notes) : Prop :=
  ∀ number, noted after number =
    (marks.lookup number).elim (noted before number) fun mark => (some mark.1, some mark.2)

namespace Adds

variable {marks later : Marks} {before between after : Notes}

theorem refl (notes : Notes) : Adds [] notes notes :=
  fun _ => rfl

theorem trans (first : Adds marks before between) (second : Adds later between after) :
    Adds (later ++ marks) before after := by
  intro number
  rw [second number, first number, List.lookup_append]
  cases later.lookup number with
  | none => rfl
  | some mark => rfl

/-- A group is passed in whose inside it has left no mark. -/
theorem group {number first last : Nat} (adds : Adds marks ((2 * number, first) :: before) after)
    (unmarked : ∀ mark ∈ marks, mark.1 ≠ number) :
    Adds ((number, first, last) :: marks) before ((2 * number + 1, last) :: after) := by
  intro other
  rw [Dictionary.lookup_cons_ite]
  by_cases isNumber : other = number
  · subst isNumber
    have noMark : marks.lookup other = none :=
      List.lookup_eq_none_iff.2 fun mark isMark => by simpa using (unmarked mark isMark).symm
    rw [if_pos rfl, noted_last_cons, adds other, noMark, Option.elim_none, noted_first_cons]
    rfl
  · rw [if_neg isNumber, noted_last_cons_of_ne after last isNumber, adds other,
      noted_first_cons_of_ne before first isNumber]

end Adds

/-- Notes change as a derivation of what a pattern takes between two positions asks for: its marks
are added, if no group stands inside a group of the same number. -/
def Follows (text : Text) (pattern : Pattern) (first last : Nat) (before after : Notes) : Prop :=
  ∃ marks, Derives text pattern first last marks ∧
    (AreDistinct pattern.groups → Adds marks before after)

namespace Follows

variable {left right inner : Pattern} {eager : Bool} {first middle last : Nat}
  {before between after : Notes}

theorem takes {pattern : Pattern} (follows : Follows text pattern first last before after) :
    Takes text pattern first last := by
  obtain ⟨marks, derives, -⟩ := follows
  exact derives.takes

theorem of_noMark {pattern : Pattern} (derives : Derives text pattern first last [])
    (notes : Notes) : Follows text pattern first last notes notes :=
  ⟨[], derives, fun _ => .refl notes⟩

theorem sequence (followsLeft : Follows text left first middle before between)
    (followsRight : Follows text right middle last between after) :
    Follows text (.sequence left right) first last before after := by
  obtain ⟨marks, leftDerives, addsLeft⟩ := followsLeft
  obtain ⟨later, rightDerives, addsRight⟩ := followsRight
  refine ⟨_, .sequence leftDerives rightDerives, fun distinct => ?_⟩
  apply (addsLeft (distinct.mono (List.subset_append_left _ _))).trans
  exact addsRight (distinct.mono (List.subset_append_right _ _))

theorem eitherLeft (follows : Follows text left first last before after) :
    Follows text (.either left right) first last before after := by
  obtain ⟨marks, derives, adds⟩ := follows
  exact ⟨marks, .left derives, fun distinct => adds (distinct.mono (List.subset_append_left _ _))⟩

theorem eitherRight (follows : Follows text right first last before after) :
    Follows text (.either left right) first last before after := by
  obtain ⟨marks, derives, adds⟩ := follows
  exact ⟨marks, .right derives,
    fun distinct => adds (distinct.mono (List.subset_append_right _ _))⟩

theorem group {number : Nat}
    (follows : Follows text inner first last ((2 * number, first) :: before) after) :
    Follows text (.group number inner) first last before ((2 * number + 1, last) :: after) := by
  obtain ⟨marks, derives, adds⟩ := follows
  refine ⟨_, .group derives, fun distinct => ?_⟩
  obtain ⟨alone, distinctInner⟩ := List.forall_mem_cons.1 distinct
  apply (adds distinctInner).group
  rintro ⟨other, start, finish⟩ isMark
  obtain ⟨deeper, isGroup, -⟩ := derives.exists_group isMark
  exact alone (other, deeper) isGroup

theorem once (follows : Follows text inner first last before after) :
    Follows text (.optional eager inner) first last before after := by
  obtain ⟨marks, derives, adds⟩ := follows
  exact ⟨marks, .once derives, adds⟩

theorem round (follows : Follows text inner first middle before between)
    (rounds : Follows text (.repeatAny eager inner) middle last between after) :
    Follows text (.repeatAny eager inner) first last before after := by
  obtain ⟨marks, derives, adds⟩ := follows
  obtain ⟨later, rounds, addsMore⟩ := rounds
  exact ⟨_, .round derives rounds, fun distinct => (adds distinct).trans (addsMore distinct)⟩

theorem someRounds (follows : Follows text inner first middle before between)
    (rounds : Follows text (.repeatAny eager inner) middle last between after) :
    Follows text (.repeatSome eager inner) first last before after := by
  obtain ⟨marks, derives, adds⟩ := follows
  obtain ⟨later, rounds, addsMore⟩ := rounds
  exact ⟨_, .someRounds derives rounds, fun distinct => (adds distinct).trans (addsMore distinct)⟩

/-- No round or some are any number of rounds. -/
theorem repeatAny
    (follows : Follows text (.optional eager (.repeatSome eager inner)) first last before after) :
    Follows text (.repeatAny eager inner) first last before after := by
  obtain ⟨marks, derives, adds⟩ := follows
  cases derives with
  | skip => exact ⟨_, .noRound _, adds⟩
  | once derives =>
    cases derives with
    | someRounds derives rounds => exact ⟨_, .round derives rounds, adds⟩

end Follows

/-- Between its entry and its exit a program does the work of a pattern. A way from the entry to a
step that accepts comes by the exit, and before that it follows a derivation of what the pattern
takes; and there is a way over all that the pattern takes. -/
structure Runs (program : Program) (text : Text) (pattern : Pattern) (entry exit : Nat) :
    Prop where
  passes : ∀ {count first : Nat} {notes : Notes} {goal : Nat × Thread},
    program[goal.2.position]? = some .accept →
    Way program text count (first, ⟨entry, notes⟩) goal →
    ∃ rest ≤ count, ∃ last after, Follows text pattern first last notes after ∧
      Way program text rest (last, ⟨exit, after⟩) goal
  leads : ∀ {first last : Nat}, Takes text pattern first last → ∀ notes : Notes,
    ∃ after, Leads program text (first, ⟨entry, notes⟩) (last, ⟨exit, after⟩)

namespace Runs

variable {left right inner : Pattern} {entry middle exit other : Nat} {eager : Bool}

theorem empty : Runs program text .empty exit exit where
  passes _ way := ⟨_, Nat.le_refl _, _, _, .of_noMark (.empty _) _, way⟩
  leads := by
    rintro first last rfl notes
    exact ⟨notes, .refl⟩

theorem one {inClass : CharClass} (isStep : program[entry]? = some (.read inClass exit)) :
    Runs program text (.one inClass) entry exit where
  passes := by
    intro count first notes goal accepts way
    obtain ⟨rest, next, rfl, moves, way⟩ := way.exists_moves isStep Step.noConfusion accepts
    obtain ⟨⟨c, isChar, holds⟩, rfl⟩ := (moves_iff isStep).1 moves
    exact ⟨rest, Nat.le_succ rest, _, _, .of_noMark (.one isChar holds) notes, way⟩
  leads := by
    rintro first last ⟨rfl, isChar⟩ notes
    exact ⟨notes, .single ((moves_iff isStep).2 ⟨isChar, rfl⟩)⟩

theorem here {place : Place} (isStep : program[entry]? = some (.test place exit)) :
    Runs program text (.here place) entry exit where
  passes := by
    intro count first notes goal accepts way
    obtain ⟨rest, next, rfl, moves, way⟩ := way.exists_moves isStep Step.noConfusion accepts
    obtain ⟨isBetween, rfl⟩ := (moves_iff isStep).1 moves
    exact ⟨rest, Nat.le_succ rest, _, _, .of_noMark (.here isBetween) notes, way⟩
  leads := by
    rintro first last ⟨rfl, holds⟩ notes
    exact ⟨notes, .single ((moves_iff isStep).2 ⟨holds, rfl⟩)⟩

theorem sequence (runsLeft : Runs program text left entry middle)
    (runsRight : Runs program text right middle exit) :
    Runs program text (.sequence left right) entry exit where
  passes := by
    intro count first notes goal accepts way
    obtain ⟨rest, fewer, between, noted, followsLeft, way⟩ := runsLeft.passes accepts way
    obtain ⟨rest', fewer', last, after, followsRight, way⟩ := runsRight.passes accepts way
    exact ⟨rest', Nat.le_trans fewer' fewer, last, after, followsLeft.sequence followsRight, way⟩
  leads := by
    rintro first last ⟨between, takesLeft, takesRight⟩ notes
    obtain ⟨noted, leadsLeft⟩ := runsLeft.leads takesLeft notes
    obtain ⟨after, leadsRight⟩ := runsRight.leads takesRight noted
    exact ⟨after, leadsLeft.trans leadsRight⟩

theorem either {leftEntry rightEntry : Nat}
    (isStep : program[entry]? = some (.choose leftEntry rightEntry))
    (runsLeft : Runs program text left leftEntry exit)
    (runsRight : Runs program text right rightEntry exit) :
    Runs program text (.either left right) entry exit where
  passes := by
    intro count first notes goal accepts way
    obtain ⟨rest, next, rfl, moves, way⟩ := way.exists_moves isStep Step.noConfusion accepts
    rcases (moves_iff isStep).1 moves with rfl | rfl
    · obtain ⟨rest', fewer, last, after, follows, way⟩ := runsLeft.passes accepts way
      exact ⟨rest', Nat.le_succ_of_le fewer, last, after, follows.eitherLeft, way⟩
    · obtain ⟨rest', fewer, last, after, follows, way⟩ := runsRight.passes accepts way
      exact ⟨rest', Nat.le_succ_of_le fewer, last, after, follows.eitherRight, way⟩
  leads := by
    rintro first last (takes | takes) notes
    · obtain ⟨after, leads⟩ := runsLeft.leads takes notes
      exact ⟨after, .head ((moves_iff isStep).2 (.inl rfl)) leads⟩
    · obtain ⟨after, leads⟩ := runsRight.leads takes notes
      exact ⟨after, .head ((moves_iff isStep).2 (.inr rfl)) leads⟩

theorem group {number innerEntry innerExit : Nat}
    (opens : program[entry]? = some (.note (2 * number) innerEntry))
    (closes : program[innerExit]? = some (.note (2 * number + 1) exit))
    (runs : Runs program text inner innerEntry innerExit) :
    Runs program text (.group number inner) entry exit where
  passes := by
    intro count first notes goal accepts way
    obtain ⟨rest, next, rfl, moves, way⟩ := way.exists_moves opens Step.noConfusion accepts
    obtain rfl := (moves_iff opens).1 moves
    obtain ⟨rest', fewer, last, after, follows, way⟩ := runs.passes accepts way
    obtain ⟨rest'', next, rfl, moves, way⟩ := way.exists_moves closes Step.noConfusion accepts
    obtain rfl := (moves_iff closes).1 moves
    exact ⟨rest'', by omega, last, _, follows.group, way⟩
  leads := by
    intro first last takes notes
    obtain ⟨after, leads⟩ := runs.leads takes ((2 * number, first) :: notes)
    exact ⟨(2 * number + 1, last) :: after, .head ((moves_iff opens).2 rfl)
      (leads.tail ((moves_iff closes).2 rfl))⟩

theorem optional (isStep : program[entry]? = some (chooseRound eager other exit))
    (runs : Runs program text inner other exit) :
    Runs program text (.optional eager inner) entry exit where
  passes := by
    intro count first notes goal accepts way
    obtain ⟨rest, next, rfl, moves, way⟩ :=
      way.exists_moves isStep (chooseRound_ne_accept eager other exit) accepts
    rcases (moves_chooseRound_iff isStep).1 moves with rfl | rfl
    · obtain ⟨rest', fewer, last, after, follows, way⟩ := runs.passes accepts way
      exact ⟨rest', Nat.le_succ_of_le fewer, last, after, follows.once, way⟩
    · exact ⟨rest, Nat.le_succ rest, first, notes, .of_noMark (.skip first) notes, way⟩
  leads := by
    rintro first last (rfl | takes) notes
    · exact ⟨notes, .single ((moves_chooseRound_iff isStep).2 (.inr rfl))⟩
    · obtain ⟨after, leads⟩ := runs.leads takes notes
      exact ⟨after, .head ((moves_chooseRound_iff isStep).2 (.inl rfl)) leads⟩

/-- A loop goes round as often as its pattern takes something. -/
theorem loop (isStep : program[middle]? = some (chooseRound eager entry exit))
    (runs : Runs program text inner entry middle) :
    Runs program text (.repeatAny eager inner) middle exit where
  passes := by
    intro count first notes goal accepts way
    induction count using Nat.strongRecOn generalizing first notes with
    | ind count inductionHypothesis =>
      obtain ⟨rest, next, rfl, moves, way⟩ :=
        way.exists_moves isStep (chooseRound_ne_accept eager entry exit) accepts
      rcases (moves_chooseRound_iff isStep).1 moves with rfl | rfl
      · obtain ⟨rest', fewer, between, noted, follows, way⟩ := runs.passes accepts way
        obtain ⟨rest'', fewer', last, after, rounds, way⟩ :=
          inductionHypothesis rest' (Nat.lt_succ_of_le fewer) way
        exact ⟨rest'', by omega, last, after, follows.round rounds, way⟩
      · exact ⟨rest, Nat.le_succ rest, first, notes, .of_noMark (.noRound first) notes, way⟩
  leads := by
    intro first last takes notes
    simp only [Takes] at takes
    induction takes using Relation.ReflTransGen.head_induction_on generalizing notes with
    | refl => exact ⟨notes, .single ((moves_chooseRound_iff isStep).2 (.inr rfl))⟩
    | head takes _ inductionHypothesis =>
      obtain ⟨noted, leads⟩ := runs.leads takes notes
      obtain ⟨after, leadsOn⟩ := inductionHypothesis noted
      exact ⟨after, (leads.head ((moves_chooseRound_iff isStep).2 (.inl rfl))).trans leadsOn⟩

/-- A loop that is entered at its first round. -/
theorem repeatSome (isStep : program[middle]? = some (chooseRound eager entry exit))
    (runs : Runs program text inner entry middle) :
    Runs program text (.repeatSome eager inner) entry exit where
  passes := by
    intro count first notes goal accepts way
    obtain ⟨rest, fewer, between, noted, follows, way⟩ := runs.passes accepts way
    obtain ⟨rest', fewer', last, after, rounds, way⟩ := (loop isStep runs).passes accepts way
    exact ⟨rest', Nat.le_trans fewer' fewer, last, after, follows.someRounds rounds, way⟩
  leads := by
    intro first last takes notes
    obtain ⟨between, takes, rounds⟩ := Relation.TransGen.head'_iff.1 takes
    obtain ⟨noted, leads⟩ := runs.leads takes notes
    obtain ⟨after, leadsOn⟩ := (loop isStep runs).leads rounds noted
    exact ⟨after, leads.trans leadsOn⟩

/-- Any number of rounds is no round or some. -/
theorem repeatAny
    (runs : Runs program text (.optional eager (.repeatSome eager inner)) entry exit) :
    Runs program text (.repeatAny eager inner) entry exit where
  passes := by
    intro count first notes goal accepts way
    obtain ⟨rest, fewer, last, after, follows, way⟩ := runs.passes accepts way
    exact ⟨rest, fewer, last, after, follows.repeatAny, way⟩
  leads takes notes := runs.leads (Relation.reflTransGen_iff_eq_or_transGen.1 takes) notes

end Runs

/-! ## Programs -/

/-- A program goes on with the steps of another. -/
structure Grows (before after : Program) : Prop where
  size_le : before.size ≤ after.size
  same : ∀ position < before.size, after[position]? = before[position]?

namespace Grows

variable {before between after : Program}

theorem refl (program : Program) : Grows program program :=
  ⟨Nat.le_refl _, fun _ _ => rfl⟩

theorem trans (first : Grows before between) (second : Grows between after) :
    Grows before after where
  size_le := Nat.le_trans first.size_le second.size_le
  same position inside :=
    (second.same position (Nat.lt_of_lt_of_le inside first.size_le)).trans
      (first.same position inside)

theorem push (program : Program) (step : Step) : Grows program (program.push step) where
  size_le := by simp
  same position inside := by rw [Array.getElem?_push, if_neg (Nat.ne_of_lt inside)]

theorem set (grows : Grows before after) {position : Nat} (outside : before.size ≤ position)
    (step : Step) : Grows before (after.setIfInBounds position step) where
  size_le := by simpa using grows.size_le
  same other inside := by
    rw [Array.getElem?_setIfInBounds_ne (by omega)]
    exact grows.same other inside

end Grows

/-- Compiling a pattern keeps the steps that are there. -/
theorem grows_compile (pattern : Pattern) (next : Nat) (program : Program) :
    Grows program (compile pattern next program).2 := by
  induction pattern generalizing next program with
  | empty => exact .refl program
  | one _ | here _ => exact .push program _
  | sequence left right leftHypothesis rightHypothesis =>
    exact (rightHypothesis next program).trans (leftHypothesis _ _)
  | either left right leftHypothesis rightHypothesis =>
    exact ((leftHypothesis next program).trans (rightHypothesis next _)).trans (.push _ _)
  | group number inner inductionHypothesis =>
    exact ((Grows.push program _).trans (inductionHypothesis _ _)).trans (.push _ _)
  | optional eager inner inductionHypothesis =>
    exact (inductionHypothesis next program).trans (.push _ _)
  | repeatSome eager inner inductionHypothesis =>
    exact ((Grows.push program _).trans (inductionHypothesis _ _)).set (Nat.le_refl _) _
  | repeatAny eager inner inductionHypothesis =>
    exact (((Grows.push program _).trans (inductionHypothesis _ _)).set (Nat.le_refl _) _).trans
      (.push _ _)

/-- A program has the steps that a part of it has from a position on. -/
def Holds (program part : Program) (low : Nat) : Prop :=
  ∀ position, low ≤ position → position < part.size → program[position]? = part[position]?

namespace Holds

variable {part smaller : Program} {low high : Nat}

theorem of_grows (holds : Holds program part low) (grows : Grows smaller part) :
    Holds program smaller low :=
  fun position above inside =>
    (holds position above (Nat.lt_of_lt_of_le inside grows.size_le)).trans
      (grows.same position inside)

theorem mono (holds : Holds program part low) (higher : low ≤ high) : Holds program part high :=
  fun position above => holds position (Nat.le_trans higher above)

/-- The step that was added last. -/
theorem last {step : Step} (holds : Holds program (part.push step) low) (above : low ≤ part.size) :
    program[part.size]? = some step := by
  rw [holds part.size above (by simp)]
  exact Array.getElem?_push_size

end Holds

/-- The steps of a loop do the work of some rounds. -/
theorem runs_compile_repeatSome {inner : Pattern} (eager : Bool) (next : Nat) (part : Program)
    (runsInner : ∀ (exit : Nat) (part : Program),
      Holds program (compile inner exit part).2 part.size →
        Runs program text inner (compile inner exit part).1 exit)
    (holds : Holds program (compile (.repeatSome eager inner) next part).2 part.size) :
    Runs program text (.repeatSome eager inner) (compile (.repeatSome eager inner) next part).1
      next := by
  have grows := grows_compile inner part.size (part.push .accept)
  have inside : part.size < (compile inner part.size (part.push .accept)).2.size :=
    Nat.lt_of_lt_of_le (by simp) grows.size_le
  have isStep : program[part.size]? = some (chooseRound eager
      (compile inner part.size (part.push .accept)).1 next) := by
    rw [holds part.size (Nat.le_refl _) (by simpa [compile, addStep] using inside)]
    exact Array.getElem?_setIfInBounds_self_of_lt inside
  apply Runs.repeatSome isStep
  apply runsInner part.size (part.push .accept)
  intro position above within
  rw [Array.size_push] at above
  rw [holds position (Nat.le_of_succ_le above) (by simpa [compile, addStep] using within)]
  exact Array.getElem?_setIfInBounds_ne (Nat.ne_of_lt above)

/-- The steps that a pattern is compiled to do its work. -/
theorem runs_compile (pattern : Pattern) (next : Nat) (part : Program)
    (holds : Holds program (compile pattern next part).2 part.size) :
    Runs program text pattern (compile pattern next part).1 next := by
  induction pattern generalizing next part with
  | empty => exact .empty
  | one inClass => exact .one (holds.last (Nat.le_refl _))
  | here place => exact .here (holds.last (Nat.le_refl _))
  | sequence left right leftHypothesis rightHypothesis =>
    have growsRight := grows_compile right next part
    have growsLeft := grows_compile left (compile right next part).1 (compile right next part).2
    exact .sequence (leftHypothesis _ _ (holds.mono growsRight.size_le))
      (rightHypothesis _ _ (holds.of_grows growsLeft))
  | either left right leftHypothesis rightHypothesis =>
    have growsLeft := grows_compile left next part
    have growsRight := grows_compile right next (compile left next part).2
    have within := holds.of_grows (.push _ _)
    exact .either (holds.last (growsLeft.trans growsRight).size_le)
      (leftHypothesis _ _ (within.of_grows growsRight))
      (rightHypothesis _ _ (within.mono growsLeft.size_le))
  | group number inner inductionHypothesis =>
    have growsClose := Grows.push part (.note (2 * number + 1) next)
    have growsInner := grows_compile inner part.size (part.push (.note (2 * number + 1) next))
    have within := holds.of_grows (.push _ _)
    exact .group (holds.last (growsClose.trans growsInner).size_le)
      ((within.of_grows growsInner).last (Nat.le_refl _))
      (inductionHypothesis _ _ (within.mono growsClose.size_le))
  | optional eager inner inductionHypothesis =>
    have growsInner := grows_compile inner next part
    exact .optional (holds.last growsInner.size_le)
      (inductionHypothesis _ _ (holds.of_grows (.push _ _)))
  | repeatSome eager inner inductionHypothesis =>
    exact runs_compile_repeatSome eager next part inductionHypothesis holds
  | repeatAny eager inner inductionHypothesis =>
    have growsLoop := grows_compile (.repeatSome eager inner) next part
    exact .repeatAny (.optional (holds.last growsLoop.size_le)
      (runs_compile_repeatSome eager next part inductionHypothesis
        (holds.of_grows (.push _ _))))

/-! ## The program of a whole pattern -/

theorem programOf_accepts (pattern : Pattern) : (programOf pattern).2[0]? = some .accept :=
  (grows_compile (.group 0 pattern) 0 #[.accept]).same 0 Nat.zero_lt_one

/-- There is a way through a program over all that its pattern takes. -/
theorem leads_of_takes {pattern : Pattern} {first last : Nat}
    (takes : Takes text pattern first last) :
    ∃ notes, Leads (programOf pattern).2 text (first, ⟨(programOf pattern).1, []⟩)
      (last, ⟨0, notes⟩) :=
  (runs_compile (.group 0 pattern) 0 #[.accept] fun _ _ _ => rfl).leads takes []

/-- A way through a program follows a derivation of what its pattern takes; the whole counts as
group zero. -/
theorem follows_of_leads {pattern : Pattern} {first : Nat}
    (leads : Leads (programOf pattern).2 text (first, ⟨(programOf pattern).1, []⟩) goal)
    (accepts : (programOf pattern).2[goal.2.position]? = some .accept) :
    Follows text (.group 0 pattern) first goal.1 [] goal.2.notes := by
  obtain ⟨count, way⟩ := exists_way_of_leads leads
  obtain ⟨rest, -, last, after, follows, way⟩ :=
    (runs_compile (.group 0 pattern) 0 #[.accept] fun _ _ _ => rfl).passes accepts way
  cases way with
  | stay => exact follows
  | go moves _ => exact absurd moves (moves_iff (programOf_accepts pattern)).1

end Folio.Pattern
