import Folio.Proofs.Pattern.Way
import Mathlib.Data.Finset.Card
import Mathlib.Data.List.Induction

/-!
# The search for a match

All ways through the program of a pattern are followed side by side, character by character. No
thread stands where no way leads, and no step that some way comes to is missed, although at one spot
only the preferred thread enters a step. So a match is found exactly if the pattern takes some part
of the text, and what is found for the whole and for the groups is where a derivation of such a part
passed them.
-/

namespace Folio.Pattern

variable {program : Program} {spot : Spot} {text : Text} {start index : Nat}

/-! ## Threads stand where ways lead -/

/-- What holds of a thread and of every thread that it leads to at a spot holds of all threads that
are found by following it. -/
theorem forall_threads_follow {good : Thread → Prop}
    (enters : ∀ {thread other}, good thread → Enters program spot thread other → good other)
    {fuel position : Nat} {notes : Notes} {frontier : Frontier} (isGood : good ⟨position, notes⟩)
    (allGood : ∀ thread ∈ frontier.threads, good thread) :
    ∀ thread ∈ (follow program spot fuel position notes frontier).threads, good thread := by
  fun_induction follow with
  | case1 | case2 | case3 | case7 => exact allGood
  | case4 fuel position notes frontier notEntered marked preferred other isStep
      preferredHypothesis otherHypothesis =>
    exact otherHypothesis (enters isGood (.other isStep))
      (preferredHypothesis (enters isGood (.preferred isStep)) allGood)
  | case5 fuel position notes frontier notEntered marked slot next isStep inductionHypothesis =>
    exact inductionHypothesis (enters isGood (.note isStep)) allGood
  | case6 fuel position notes frontier notEntered marked place next isStep holds
      inductionHypothesis =>
    exact inductionHypothesis (enters isGood (.test isStep holds)) allGood
  | case8 | case9 => exact List.forall_mem_cons.2 ⟨isGood, allGood⟩

theorem readChar_append_singleton (program : Program) (c : Char) (spot : Spot)
    (threads : List Thread) (thread : Thread) :
    readChar program c spot (threads ++ [thread]) =
      match program[thread.position]? with
      | some (.read inClass next) =>
        if inClass.holds c then
          follow program spot (program.size + 1) next thread.notes
            (readChar program c spot threads)
        else readChar program c spot threads
      | _ => readChar program c spot threads := by
  rw [readChar, List.foldl_append]
  rfl

/-- A way of the search leads from the start, at some position of the text, to a thread. -/
def Started (program : Program) (start : Nat) (text : Text) (index : Nat) (thread : Thread) :
    Prop :=
  ∃ first ≤ text.length, Leads program text (first, ⟨start, []⟩) (index, thread)

theorem Started.moves {thread : Thread} {stand : Nat × Thread}
    (started : Started program start text index thread)
    (moves : Moves program text (index, thread) stand) :
    Started program start text stand.1 stand.2 := by
  obtain ⟨first, inside, leads⟩ := started
  exact ⟨first, inside, leads.tail moves⟩

theorem started_readChar {c : Char} (isChar : text[index]? = some c) {threads : List Thread}
    (started : ∀ thread ∈ threads, Started program start text index thread) :
    ∀ thread ∈ (readChar program c (spotAt text (index + 1)) threads).threads,
      Started program start text (index + 1) thread := by
  induction threads using List.reverseRecOn with
  | nil => intro thread member; cases member
  | append_singleton threads thread inductionHypothesis =>
    rw [List.forall_mem_append, List.forall_mem_singleton] at started
    obtain ⟨earlier, last⟩ := started
    rw [readChar_append_singleton]
    split
    · next inClass next isStep =>
      split
      · next holds =>
        refine forall_threads_follow (fun started enters => started.moves (.enter enters)) ?_
          (inductionHypothesis earlier)
        exact last.moves (.read isStep isChar holds)
      · exact inductionHypothesis earlier
    · exact inductionHypothesis earlier

/-- Threads are split at the first one that has arrived, if there is one. -/
theorem arrived_cases (program : Program) (threads : List Thread) :
    (arrived program threads = (threads, none) ∧
        ∀ thread ∈ threads, program[thread.position]? ≠ some .accept) ∨
      ∃ before thread after, threads = before ++ thread :: after ∧
        program[thread.position]? = some .accept ∧
        arrived program threads = (before, some thread.notes) := by
  fun_induction arrived program threads with
  | case1 => exact .inl ⟨rfl, by simp⟩
  | case2 thread rest accepts => exact .inr ⟨[], thread, rest, rfl, accepts, rfl⟩
  | case3 thread rest before notes split goesOn inductionHypothesis =>
    rw [split] at inductionHypothesis
    rcases inductionHypothesis with ⟨same, others⟩ | ⟨front, other, after, rfl, accepts, same⟩
    · obtain ⟨rfl, rfl⟩ := Prod.mk.inj same
      exact .inl ⟨rfl, List.forall_mem_cons.2 ⟨goesOn, others⟩⟩
    · obtain ⟨rfl, rfl⟩ := Prod.mk.inj same
      exact .inr ⟨thread :: before, other, after, rfl, accepts, rfl⟩

/-- A search finds the notes of a thread that has arrived. -/
def Arrives (program : Program) (start : Nat) (text : Text) (notes : Notes) : Prop :=
  ∃ last position, program[position]? = some .accept ∧
    Started program start text last ⟨position, notes⟩

/-- What a search does at a spot: the threads that go on have started, and what it has found has
arrived. -/
theorem started_arrive (inside : index ≤ text.length) {frontier : Frontier} {best : Option Notes}
    (started : ∀ thread ∈ frontier.threads, Started program start text index thread)
    (found : ∀ notes ∈ best, Arrives program start text notes) :
    (∀ thread ∈ (arrive start program (spotAt text index) frontier best).1,
        Started program start text index thread) ∧
      ∀ notes ∈ (arrive start program (spotAt text index) frontier best).2,
        Arrives program start text notes := by
  rw [arrive]
  generalize entered : (if best.isNone then
    follow program (spotAt text index) (program.size + 1) start [] frontier else frontier) = after
  have allStarted : ∀ thread ∈ after.threads.reverse,
      Started program start text index thread := by
    intro thread member
    rw [List.mem_reverse] at member
    subst entered
    split at member
    · exact forall_threads_follow (fun started enters => started.moves (.enter enters))
        ⟨index, inside, .refl⟩ started thread member
    · exact started thread member
  rcases arrived_cases program after.threads.reverse with
    ⟨same, -⟩ | ⟨before, thread, later, split, accepts, same⟩
  · rw [same]
    exact ⟨allStarted, found⟩
  · rw [same]
    rw [split] at allStarted
    constructor
    · exact fun other member => allStarted other (List.mem_append_left _ member)
    · rintro notes ⟨⟩
      exact ⟨index, thread.position, accepts, allStarted thread (by simp)⟩

/-! ### The text from a position on -/

theorem getElem?_of_drop {c : Char} {rest : Text} (behind : text.drop index = c :: rest) :
    text[index]? = some c := by
  rw [← List.head?_drop, behind, List.head?_cons]

theorem drop_succ_of_drop {c : Char} {rest : Text} (behind : text.drop index = c :: rest) :
    text.drop (index + 1) = rest := by
  rw [← List.drop_drop, behind]
  rfl

theorem spotAt_of_drop {rest : Text} (behind : text.drop index = rest) :
    spotAt text index = ⟨index, charBefore? text index, rest.head?⟩ := by
  rw [spotAt, ← behind, List.head?_drop]

/-- At the end of the text a search stops. -/
theorem runFrom_of_drop_nil (behind : text.drop index = []) (frontier : Frontier)
    (best : Option Notes) :
    runFrom start program index (charBefore? text index) frontier best [] =
      (arrive start program (spotAt text index) frontier best).2 := by
  rw [spotAt_of_drop behind]
  rfl

/-- At a character a search reads it and goes on behind it. -/
theorem runFrom_of_drop_cons {c : Char} {rest : Text} (behind : text.drop index = c :: rest)
    (frontier : Frontier) (best : Option Notes) :
    runFrom start program index (charBefore? text index) frontier best (c :: rest) =
      runFrom start program (index + 1) (charBefore? text (index + 1))
        (readChar program c (spotAt text (index + 1))
          (arrive start program (spotAt text index) frontier best).1)
        (arrive start program (spotAt text index) frontier best).2 rest := by
  have isLast : charBefore? text (index + 1) = some c := getElem?_of_drop behind
  rw [spotAt_of_drop behind, spotAt_of_drop (drop_succ_of_drop behind), isLast]
  rfl

/-- What a search finds has arrived. -/
theorem arrives_of_runFrom {rest : Text} {frontier : Frontier} {best : Option Notes}
    (inside : index ≤ text.length) (behind : text.drop index = rest)
    (started : ∀ thread ∈ frontier.threads, Started program start text index thread)
    (found : ∀ notes ∈ best, Arrives program start text notes) :
    ∀ notes ∈ runFrom start program index (charBefore? text index) frontier best rest,
      Arrives program start text notes := by
  obtain ⟨goOn, foundHere⟩ := started_arrive inside started found
  induction rest generalizing index frontier best with
  | nil =>
    rw [runFrom_of_drop_nil behind]
    exact foundHere
  | cons c rest inductionHypothesis =>
    have isChar := getElem?_of_drop behind
    have insideNext : index + 1 ≤ text.length := (List.getElem?_eq_some_iff.1 isChar).1
    have startedNext := started_readChar isChar goOn
    obtain ⟨goOnNext, foundNext⟩ := started_arrive insideNext startedNext foundHere
    rw [runFrom_of_drop_cons behind]
    exact inductionHypothesis insideNext (drop_succ_of_drop behind) startedNext foundHere goOnNext
      foundNext

/-! ## No step on a way is missed -/

/-- Whether a thread stays at a step: to read a character, or because it has arrived. -/
def Step.waits : Step → Bool
  | .read _ _ | .accept => true
  | _ => false

/-- Where a thread goes on from a step without reading a character. -/
def Step.exits (spot : Spot) : Step → List Nat
  | .choose preferred other => [preferred, other]
  | .note _ next => [next]
  | .test place next => if place.isBetween spot.before spot.after then [next] else []
  | .read _ _ | .accept => []

theorem Enters.exists_step {thread other : Thread} (enters : Enters program spot thread other) :
    ∃ step, program[thread.position]? = some step ∧ other.position ∈ step.exits spot := by
  cases enters with
  | preferred isStep | other isStep | note isStep => exact ⟨_, isStep, by simp [Step.exits]⟩
  | test isStep holds => exact ⟨_, isStep, by simp [Step.exits, holds]⟩

/-- A step has been followed in every direction, and a thread waits at it if it has to. -/
structure Settled (program : Program) (spot : Spot) (frontier : Frontier) (position : Nat) :
    Prop where
  followed : ∀ {step}, program[position]? = some step → step.exits spot ⊆ frontier.entered
  waiting : ∀ {step}, program[position]? = some step → step.waits = true →
    ∃ notes, ⟨position, notes⟩ ∈ frontier.threads

namespace Settled

variable {before after : Frontier} {position : Nat} {step : Step}

theorem of_step (isStep : program[position]? = some step)
    (followed : step.exits spot ⊆ after.entered)
    (waiting : step.waits = true → ∃ notes, ⟨position, notes⟩ ∈ after.threads) :
    Settled program spot after position where
  followed found := Option.some.inj (isStep.symm.trans found) ▸ followed
  waiting found := Option.some.inj (isStep.symm.trans found) ▸ waiting

theorem mono (settled : Settled program spot before position)
    (entered : before.entered ⊆ after.entered) (threads : before.threads ⊆ after.threads) :
    Settled program spot after position where
  followed isStep := List.Subset.trans (settled.followed isStep) entered
  waiting isStep waits :=
    let ⟨notes, member⟩ := settled.waiting isStep waits
    ⟨notes, threads member⟩

end Settled

/-- What has been entered stays entered, and what is entered anew is settled. -/
structure Explores (program : Program) (spot : Spot) (before after : Frontier) : Prop where
  entered : before.entered ⊆ after.entered
  threads : before.threads ⊆ after.threads
  settled : ∀ position ∈ after.entered,
    position ∈ before.entered ∨ Settled program spot after position

namespace Explores

variable {before between after : Frontier}

theorem refl (frontier : Frontier) : Explores program spot frontier frontier :=
  ⟨List.Subset.refl _, List.Subset.refl _, fun _ member => .inl member⟩

theorem trans (first : Explores program spot before between)
    (second : Explores program spot between after) : Explores program spot before after where
  entered := List.Subset.trans first.entered second.entered
  threads := List.Subset.trans first.threads second.threads
  settled position member := by
    rcases second.settled position member with earlier | settled
    · exact (first.settled position earlier).imp_right
        (·.mono second.entered second.threads)
    · exact .inr settled

/-- Following a step explores if the step is settled in the end. -/
theorem of_marked {position : Nat}
    (explores : Explores program spot
      { before with entered := position :: before.entered } after)
    (settled : Settled program spot after position) : Explores program spot before after where
  entered := List.Subset.trans (List.subset_cons_self _ _) explores.entered
  threads := explores.threads
  settled other member := by
    rcases explores.settled other member with marked | settledOther
    · rcases List.mem_cons.1 marked with rfl | earlier
      · exact .inr settled
      · exact .inl earlier
    · exact .inr settledOther

/-- A thread that waits at a step has entered it. -/
theorem of_waiting {position : Nat} {step : Step} (isStep : program[position]? = some step)
    (noExit : step.exits spot = []) (notes : Notes) :
    Explores program spot before
      ⟨position :: before.entered, ⟨position, notes⟩ :: before.threads⟩ := by
  have marked : Explores program spot { before with entered := position :: before.entered }
      ⟨position :: before.entered, ⟨position, notes⟩ :: before.threads⟩ :=
    ⟨List.Subset.refl _, List.subset_cons_self _ _, fun _ => .inl⟩
  refine marked.of_marked (.of_step isStep ?_ fun _ => ⟨notes, List.mem_cons_self⟩)
  rw [noExit]
  exact List.nil_subset _

theorem position_mem {position : Nat}
    (explores : Explores program spot
      { before with entered := position :: before.entered } after) :
    position ∈ after.entered :=
  explores.entered List.mem_cons_self

end Explores

/-- How many steps of a program have not been entered. -/
def unentered (program : Program) (frontier : Frontier) : Nat :=
  (Finset.range program.size \ frontier.entered.toFinset).card

theorem unentered_mono {before after : Frontier} (entered : before.entered ⊆ after.entered) :
    unentered program after ≤ unentered program before := by
  apply Finset.card_le_card
  apply Finset.sdiff_subset_sdiff (Finset.Subset.refl _)
  intro position member
  rw [List.mem_toFinset] at member ⊢
  exact entered member

theorem unentered_marked_lt {frontier : Frontier} {position : Nat} {step : Step}
    (isStep : program[position]? = some step) (isNew : position ∉ frontier.entered) :
    unentered program { frontier with entered := position :: frontier.entered } <
      unentered program frontier := by
  apply Finset.card_lt_card
  have inside : position < program.size := (Array.getElem?_eq_some_iff.1 isStep).1
  refine Finset.ssubset_iff_of_subset ?_ |>.2 ⟨position, ?_, ?_⟩
  · intro other member
    simp only [Finset.mem_sdiff, List.mem_toFinset, List.mem_cons, not_or] at member ⊢
    exact ⟨member.1, member.2.2⟩
  · simp [inside, isNew]
  · simp

/-- Following a step explores, if the fuel suffices for all steps that have not been entered. -/
theorem explores_follow {fuel position : Nat} {notes : Notes} {frontier : Frontier}
    (enough : unentered program frontier < fuel) :
    Explores program spot frontier (follow program spot fuel position notes frontier) ∧
      position ∈ (follow program spot fuel position notes frontier).entered := by
  have enoughMarked {position : Nat} {step : Step} {fuel : Nat} {frontier : Frontier}
      (isStep : program[position]? = some step) (isNew : ¬frontier.entered.contains position = true)
      (enough : unentered program frontier < fuel + 1) :
      unentered program { frontier with entered := position :: frontier.entered } < fuel :=
    Nat.lt_of_lt_of_le
      (unentered_marked_lt isStep fun member => isNew (List.contains_iff_mem.2 member))
      (Nat.le_of_lt_succ enough)
  fun_induction follow with
  | case1 => exact absurd enough (Nat.not_lt_zero _)
  | case2 fuel position notes frontier entered =>
    exact ⟨.refl frontier, List.contains_iff_mem.1 entered⟩
  | case3 fuel position notes frontier isNew marked noStep =>
    have outside {step : Step} : program[position]? ≠ some step := by simp [noStep]
    exact ⟨.of_marked (.refl _) ⟨(absurd · outside), (absurd · outside)⟩, List.mem_cons_self⟩
  | case4 fuel position notes frontier isNew marked preferred other isStep
      preferredHypothesis otherHypothesis =>
    have enough := enoughMarked isStep isNew enough
    obtain ⟨exploresFirst, preferredEntered⟩ := preferredHypothesis enough
    obtain ⟨exploresSecond, otherEntered⟩ :=
      otherHypothesis (Nat.lt_of_le_of_lt (unentered_mono exploresFirst.entered) enough)
    have explores := exploresFirst.trans exploresSecond
    refine ⟨explores.of_marked (.of_step isStep ?_ Bool.noConfusion), explores.position_mem⟩
    simpa [Step.exits] using ⟨exploresSecond.entered preferredEntered, otherEntered⟩
  | case5 fuel position notes frontier isNew marked slot next isStep inductionHypothesis =>
    obtain ⟨explores, entered⟩ := inductionHypothesis (enoughMarked isStep isNew enough)
    refine ⟨explores.of_marked (.of_step isStep ?_ Bool.noConfusion), explores.position_mem⟩
    simpa [Step.exits] using entered
  | case6 fuel position notes frontier isNew marked place next isStep holds
      inductionHypothesis =>
    obtain ⟨explores, entered⟩ := inductionHypothesis (enoughMarked isStep isNew enough)
    refine ⟨explores.of_marked (.of_step isStep ?_ Bool.noConfusion), explores.position_mem⟩
    simpa [Step.exits, holds] using entered
  | case7 fuel position notes frontier isNew marked place next isStep fails =>
    refine ⟨.of_marked (.refl _) (.of_step isStep ?_ Bool.noConfusion), List.mem_cons_self⟩
    simp [Step.exits, fails]
  | case8 fuel position notes frontier isNew marked inClass next isStep =>
    exact ⟨.of_waiting isStep rfl notes, List.mem_cons_self⟩
  | case9 fuel position notes frontier isNew marked isStep =>
    exact ⟨.of_waiting isStep rfl notes, List.mem_cons_self⟩

/-- Whatever has been entered, the fuel of a search suffices. -/
theorem explores_follow_of_size (program : Program) (spot : Spot) (position : Nat) (notes : Notes)
    (frontier : Frontier) :
    Explores program spot frontier
        (follow program spot (program.size + 1) position notes frontier) ∧
      position ∈ (follow program spot (program.size + 1) position notes frontier).entered := by
  apply explores_follow
  apply Nat.lt_succ_of_le
  calc unentered program frontier
      ≤ (Finset.range program.size).card := Finset.card_le_card Finset.sdiff_subset
    _ = program.size := Finset.card_range program.size

/-- Reading a character explores, and enters every step behind a thread that can read it. -/
theorem explores_readChar (program : Program) (c : Char) (spot : Spot) (threads : List Thread) :
    Explores program spot ⟨[], []⟩ (readChar program c spot threads) ∧
      ∀ thread ∈ threads, ∀ inClass next, program[thread.position]? = some (.read inClass next) →
        inClass.holds c = true → next ∈ (readChar program c spot threads).entered := by
  induction threads using List.reverseRecOn with
  | nil => exact ⟨.refl _, by simp⟩
  | append_singleton threads thread inductionHypothesis =>
    obtain ⟨explores, entered⟩ := inductionHypothesis
    rw [List.forall_mem_append, List.forall_mem_singleton, readChar_append_singleton]
    split
    · next inClass next isStep =>
      split
      · next holds =>
        obtain ⟨exploresLast, nextEntered⟩ := explores_follow_of_size program spot next
          thread.notes (readChar program c spot threads)
        refine ⟨explores.trans exploresLast, ?_, ?_⟩
        · exact fun other member inClass next isStep holds =>
            exploresLast.entered (entered other member inClass next isStep holds)
        · intro inClass next found _
          cases isStep.symm.trans found
          exact nextEntered
      · next fails =>
        refine ⟨explores, entered, ?_⟩
        intro inClass next found holds
        cases isStep.symm.trans found
        exact absurd holds fails
    · next other =>
      exact ⟨explores, entered, fun inClass next found => absurd found (other inClass next)⟩

theorem arrive_none (start : Nat) (program : Program) (spot : Spot) (frontier : Frontier) :
    arrive start program spot frontier none =
      arrived program
        (follow program spot (program.size + 1) start [] frontier).threads.reverse := by
  rw [arrive]
  simp

/-- The frontier at a position, before a match may start there: what is entered is settled, and
every step that a way reaches by reading the character before has been entered. -/
structure Covers (program : Program) (start : Nat) (text : Text) (index : Nat)
    (frontier : Frontier) : Prop where
  explores : Explores program (spotAt text index) ⟨[], []⟩ frontier
  reached : ∀ {first stand thread}, Leads program text (first, ⟨start, []⟩) stand →
    stand.1 + 1 = index → Moves program text stand (index, thread) →
      thread.position ∈ frontier.entered

namespace Covers

variable {frontier after : Frontier} {first : Nat} {stand : Nat × Thread}

theorem zero : Covers program start text 0 ⟨[], []⟩ where
  explores := .refl _
  reached _ follows := absurd follows (Nat.succ_ne_zero _)

theorem settled_of_mem (covers : Covers program start text index frontier)
    (explores : Explores program (spotAt text index) frontier after) {position : Nat}
    (entered : position ∈ after.entered) : Settled program (spotAt text index) after position :=
  ((covers.explores.trans explores).settled position entered).resolve_left List.not_mem_nil

/-- Once a match may start at the position as well, every step that a way reaches there has been
entered. -/
theorem entered (covers : Covers program start text index frontier)
    (explores : Explores program (spotAt text index) frontier after)
    (startEntered : start ∈ after.entered) (leads : Leads program text (first, ⟨start, []⟩) stand)
    (isHere : stand.1 = index) : stand.2.position ∈ after.entered := by
  induction leads with
  | refl => exact startEntered
  | @tail before stand leads moves inductionHypothesis =>
    cases moves with
    | enter enters =>
      subst isHere
      obtain ⟨step, isStep, isExit⟩ := enters.exists_step
      exact (covers.settled_of_mem explores (inductionHypothesis rfl)).followed isStep isExit
    | read isStep isChar holds =>
      exact explores.entered (covers.reached leads isHere (isHere ▸ .read isStep isChar holds))

/-- A thread waits wherever a way reaches a step at which threads wait. -/
theorem exists_waiting (covers : Covers program start text index frontier)
    (leads : Leads program text (first, ⟨start, []⟩) stand) (isHere : stand.1 = index)
    {step : Step} (isStep : program[stand.2.position]? = some step) (waits : step.waits = true) :
    ∃ notes, ⟨stand.2.position, notes⟩ ∈
      (follow program (spotAt text index) (program.size + 1) start [] frontier).threads := by
  obtain ⟨explores, startEntered⟩ :=
    explores_follow_of_size program (spotAt text index) start [] frontier
  have entered := covers.entered explores startEntered leads isHere
  exact (covers.settled_of_mem explores entered).waiting isStep waits

/-- Where a way arrives, something is found. -/
theorem isSome_arrive (covers : Covers program start text index frontier)
    (leads : Leads program text (first, ⟨start, []⟩) stand) (isHere : stand.1 = index)
    (accepts : program[stand.2.position]? = some .accept) :
    (arrive start program (spotAt text index) frontier none).2.isSome = true := by
  obtain ⟨notes, waiting⟩ := covers.exists_waiting leads isHere accepts rfl
  rw [arrive_none]
  rcases arrived_cases program (follow program (spotAt text index) (program.size + 1) start []
    frontier).threads.reverse with ⟨-, others⟩ | ⟨_, _, _, -, -, same⟩
  · exact absurd accepts (others ⟨_, notes⟩ (List.mem_reverse.2 waiting))
  · rw [same]
    rfl

/-- Where nothing is found, reading a character leaves out no way. -/
theorem next (covers : Covers program start text index frontier) {c : Char}
    (isChar : text[index]? = some c)
    (notFound : (arrive start program (spotAt text index) frontier none).2 = none) :
    Covers program start text (index + 1)
      (readChar program c (spotAt text (index + 1))
        (arrive start program (spotAt text index) frontier none).1) := by
  obtain ⟨explores, behind⟩ := explores_readChar program c (spotAt text (index + 1))
    (arrive start program (spotAt text index) frontier none).1
  refine ⟨explores, ?_⟩
  intro first stand thread leads follows moves
  cases moves with
  | enter enters => omega
  | read isStep isHere holds =>
    obtain ⟨notes, waiting⟩ := covers.exists_waiting leads rfl isStep rfl
    cases isChar.symm.trans isHere
    refine behind ⟨_, notes⟩ ?_ _ _ isStep holds
    rw [arrive_none] at notFound ⊢
    rcases arrived_cases program (follow program (spotAt text index) (program.size + 1) start []
      frontier).threads.reverse with ⟨same, -⟩ | ⟨_, _, _, -, -, same⟩
    · rw [same]
      exact List.mem_reverse.2 waiting
    · rw [same] at notFound
      cases notFound

end Covers

theorem isSome_arrive_of_isSome {frontier : Frontier} {best : Option Notes}
    (found : best.isSome = true) : (arrive start program spot frontier best).2.isSome = true := by
  obtain ⟨notes, rfl⟩ := Option.isSome_iff_exists.1 found
  rw [arrive]
  rcases arrived_cases program frontier.threads.reverse with ⟨same, -⟩ | ⟨_, _, _, -, -, same⟩ <;>
    simp [same]

/-- What has been found is replaced only by something that is preferred. -/
theorem isSome_runFrom_of_isSome {rest : Text} {before : Option Char} {frontier : Frontier}
    {best : Option Notes} (found : best.isSome = true) :
    (runFrom start program index before frontier best rest).isSome = true := by
  induction rest generalizing index before frontier best with
  | nil => exact isSome_arrive_of_isSome found
  | cons c rest inductionHypothesis => exact inductionHypothesis (isSome_arrive_of_isSome found)

/-- A search finds something if a way arrives that has not been passed. -/
theorem isSome_runFrom {rest : Text} {frontier : Frontier} (behind : text.drop index = rest)
    (covers : Covers program start text index frontier) {first : Nat} {stand : Nat × Thread}
    (leads : Leads program text (first, ⟨start, []⟩) stand)
    (accepts : program[stand.2.position]? = some .accept) (ahead : index ≤ stand.1)
    (inside : stand.1 ≤ text.length) :
    (runFrom start program index (charBefore? text index) frontier none rest).isSome = true := by
  induction rest generalizing index frontier with
  | nil =>
    have isHere : stand.1 = index := Nat.le_antisymm
      (inside.trans (List.drop_eq_nil_iff.1 behind)) ahead
    rw [runFrom_of_drop_nil behind]
    exact covers.isSome_arrive leads isHere accepts
  | cons c rest inductionHypothesis =>
    rw [runFrom_of_drop_cons behind]
    cases found : (arrive start program (spotAt text index) frontier none).2 with
    | some notes => exact isSome_runFrom_of_isSome rfl
    | none =>
      have notHere : stand.1 ≠ index := by
        intro isHere
        have isFound := covers.isSome_arrive leads isHere accepts
        rw [found] at isFound
        cases isFound
      exact inductionHypothesis (drop_succ_of_drop behind)
        (covers.next (getElem?_of_drop behind) found)
        (Nat.lt_of_le_of_ne ahead (Ne.symm notHere))

/-! ## Matches -/

variable {pattern : Pattern} {groups : Nat} {captures : Captures}

/-- The notes that the search of a pattern ends with. -/
def found? (pattern : Pattern) (text : Text) : Option Notes :=
  runFrom (programOf pattern).1 (programOf pattern).2 0 none ⟨[], []⟩ none text

theorem captures?_eq_map (pattern : Pattern) (groups : Nat) (text : Text) :
    pattern.captures? groups text =
      (pattern.found? text).map fun notes => (List.range (groups + 1)).map (capture text notes) :=
  rfl

/-- The notes that a search ends with are those of a derivation of a part of the text. -/
theorem follows_of_found? {notes : Notes} (found : pattern.found? text = some notes) :
    ∃ first ≤ text.length, ∃ last, Follows text (.group 0 pattern) first last [] notes := by
  have noThread : ∀ thread ∈ ([] : List Thread),
      Started (programOf pattern).2 (programOf pattern).1 text 0 thread := by simp
  obtain ⟨last, position, accepts, first, inside, leads⟩ :=
    arrives_of_runFrom (Nat.zero_le _) List.drop_zero noThread (by simp) notes found
  exact ⟨first, inside, last, follows_of_leads leads accepts⟩

/-- A search ends with notes if the pattern takes some part of the text. -/
theorem isSome_found?_of_takes {first last : Nat} (takes : Takes text pattern first last)
    (inside : first ≤ text.length) : (pattern.found? text).isSome = true := by
  obtain ⟨notes, leads⟩ := leads_of_takes takes
  exact isSome_runFrom List.drop_zero .zero leads (programOf_accepts pattern) (Nat.zero_le last)
    (takes.bounds.2 inside)

/-- Nothing is taken out of a text exactly if the pattern matches no part of it. -/
theorem captures?_eq_none_iff :
    pattern.captures? groups text = none ↔
      ∀ before whole after, text = before ++ whole ++ after →
        ¬ pattern.Matches before whole after := by
  rw [captures?_eq_map, Option.map_eq_none_iff]
  constructor
  · rintro notFound before whole after rfl isMatch
    have isFound := isSome_found?_of_takes isMatch (by simp)
    rw [notFound] at isFound
    cases isFound
  · intro noMatch
    rw [Option.eq_none_iff_forall_ne_some]
    intro notes found
    obtain ⟨first, inside, last, follows⟩ := follows_of_found? found
    have takes : Takes text pattern first last := follows.takes
    exact noMatch _ _ _ (split_at_between text takes.bounds.1) (takes.matches_between inside)

/-- Notes that are added for marks enclose what the marks enclose. -/
theorem capture_of_adds {marks : Marks} {notes : Notes} (adds : Adds marks [] notes)
    (number : Nat) :
    capture text notes number =
      (marks.lookup number).map fun mark => between text mark.1 mark.2 := by
  obtain ⟨isFirst, isLast⟩ := Prod.mk.inj (adds number)
  rw [capture, isFirst, isLast]
  cases marks.lookup number with
  | none => rfl
  | some mark => rfl

/-- If no group stands inside a group of the same number, what is taken out of a text is taken by a
match. -/
theorem areTaken_of_captures? (distinct : AreDistinct (group 0 pattern).groups)
    (found : pattern.captures? groups text = some captures) :
    pattern.AreTaken groups text captures := by
  rw [captures?_eq_map, Option.map_eq_some_iff] at found
  obtain ⟨notes, found, rfl⟩ := found
  obtain ⟨first, inside, last, marks, derives, adds⟩ := follows_of_found? found
  refine ⟨first, last, marks, inside, derives, ?_⟩
  exact List.map_congr_left fun number _ => capture_of_adds (adds distinct) number

end Folio.Pattern
