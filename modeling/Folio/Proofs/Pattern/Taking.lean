import Folio.Pattern.Basic
import Mathlib.Logic.Relation

/-!
# What patterns take

What a pattern takes out of a text is said by recursion on the pattern. How it takes it is said by
a derivation, which goes through the pattern piece by piece and marks a group wherever it has passed
one. A pattern takes something exactly if there is a derivation of it. Every mark lies inside of
what is taken, and between its ends lies something that the pattern inside the group takes.
-/

namespace Folio.Pattern

/-- The character before a position of a text. -/
def charBefore? (text : Text) : Nat → Option Char
  | 0 => none
  | index + 1 => text[index]?

/-- A pattern takes what stands between two positions of a text. -/
def Takes (text : Text) : Pattern → Nat → Nat → Prop
  | .empty, first, last => last = first
  | .one inClass, first, last =>
    last = first + 1 ∧ ∃ c, text[first]? = some c ∧ inClass.holds c = true
  | .here place, first, last =>
    last = first ∧ place.isBetween (charBefore? text first) text[first]? = true
  | .sequence left right, first, last =>
    ∃ middle, Takes text left first middle ∧ Takes text right middle last
  | .either left right, first, last => Takes text left first last ∨ Takes text right first last
  | .group _ inner, first, last => Takes text inner first last
  | .optional _ inner, first, last => last = first ∨ Takes text inner first last
  | .repeatAny _ inner, first, last => Relation.ReflTransGen (Takes text inner) first last
  | .repeatSome _ inner, first, last => Relation.TransGen (Takes text inner) first last

/-- The groups of a pattern: their numbers and what is inside. -/
def groups : Pattern → List (Nat × Pattern)
  | .empty | .one _ | .here _ => []
  | .sequence left right | .either left right => left.groups ++ right.groups
  | .group number inner => (number, inner) :: inner.groups
  | .optional _ inner | .repeatAny _ inner | .repeatSome _ inner => inner.groups

variable {text : Text} {pattern : Pattern} {first last : Nat}

/-- What a pattern takes starts before it ends, and it lies inside the text if it starts there. -/
theorem Takes.bounds (takes : Takes text pattern first last) :
    first ≤ last ∧ (first ≤ text.length → last ≤ text.length) := by
  induction pattern generalizing first last with
  | empty | here _ =>
    simp only [Takes] at takes
    omega
  | one inClass =>
    obtain ⟨rfl, c, isChar, -⟩ := takes
    have inside := (List.getElem?_eq_some_iff.1 isChar).1
    omega
  | sequence left right leftHypothesis rightHypothesis =>
    obtain ⟨middle, takesLeft, takesRight⟩ := takes
    have := leftHypothesis takesLeft
    have := rightHypothesis takesRight
    omega
  | either left right leftHypothesis rightHypothesis =>
    rcases takes with takesLeft | takesRight
    · exact leftHypothesis takesLeft
    · exact rightHypothesis takesRight
  | group _ inner inductionHypothesis => exact inductionHypothesis takes
  | optional _ inner inductionHypothesis =>
    rcases takes with rfl | takes
    · omega
    · exact inductionHypothesis takes
  | repeatAny _ inner inductionHypothesis =>
    simp only [Takes] at takes
    induction takes with
    | refl => omega
    | tail _ takes earlier =>
      have := inductionHypothesis takes
      omega
  | repeatSome _ inner inductionHypothesis =>
    simp only [Takes] at takes
    induction takes with
    | single takes => exact inductionHypothesis takes
    | tail _ takes earlier =>
      have := inductionHypothesis takes
      omega

/-! ## Derivations -/

/-- Marks of groups, latest first: their numbers and the positions between which they were
passed. -/
abbrev Marks := List (Nat × Nat × Nat)

/-- A derivation of what a pattern takes between two positions of a text, and the marks it leaves. A
group is marked when it has been passed, so its mark comes after those of the groups inside it. -/
inductive Derives (text : Text) : Pattern → Nat → Nat → Marks → Prop
  | empty (position : Nat) : Derives text .empty position position []
  | one {inClass : CharClass} {c : Char} {position : Nat} (isChar : text[position]? = some c)
      (holds : inClass.holds c = true) :
      Derives text (.one inClass) position (position + 1) []
  | here {place : Place} {position : Nat}
      (isBetween : place.isBetween (charBefore? text position) text[position]? = true) :
      Derives text (.here place) position position []
  | sequence {left right : Pattern} {first middle last : Nat} {marks later : Marks}
      (leftDerives : Derives text left first middle marks)
      (rightDerives : Derives text right middle last later) :
      Derives text (.sequence left right) first last (later ++ marks)
  | left {left right : Pattern} {first last : Nat} {marks : Marks}
      (derives : Derives text left first last marks) :
      Derives text (.either left right) first last marks
  | right {left right : Pattern} {first last : Nat} {marks : Marks}
      (derives : Derives text right first last marks) :
      Derives text (.either left right) first last marks
  | group {number : Nat} {inner : Pattern} {first last : Nat} {marks : Marks}
      (derives : Derives text inner first last marks) :
      Derives text (.group number inner) first last ((number, first, last) :: marks)
  | skip {eager : Bool} {inner : Pattern} (position : Nat) :
      Derives text (.optional eager inner) position position []
  | once {eager : Bool} {inner : Pattern} {first last : Nat} {marks : Marks}
      (derives : Derives text inner first last marks) :
      Derives text (.optional eager inner) first last marks
  | noRound {eager : Bool} {inner : Pattern} (position : Nat) :
      Derives text (.repeatAny eager inner) position position []
  | round {eager : Bool} {inner : Pattern} {first middle last : Nat} {marks later : Marks}
      (derives : Derives text inner first middle marks)
      (rounds : Derives text (.repeatAny eager inner) middle last later) :
      Derives text (.repeatAny eager inner) first last (later ++ marks)
  | someRounds {eager : Bool} {inner : Pattern} {first middle last : Nat} {marks later : Marks}
      (derives : Derives text inner first middle marks)
      (rounds : Derives text (.repeatAny eager inner) middle last later) :
      Derives text (.repeatSome eager inner) first last (later ++ marks)

namespace Derives

variable {marks : Marks}

theorem takes (derives : Derives text pattern first last marks) :
    Takes text pattern first last := by
  induction derives with
  | empty position => exact rfl
  | skip position => exact .inl rfl
  | one isChar holds => exact ⟨rfl, _, isChar, holds⟩
  | here isBetween => exact ⟨rfl, isBetween⟩
  | sequence _ _ takesLeft takesRight => exact ⟨_, takesLeft, takesRight⟩
  | left _ takes => exact .inl takes
  | right _ takes => exact .inr takes
  | group _ takes => exact takes
  | once _ takes => exact .inr takes
  | noRound position => exact Relation.ReflTransGen.refl
  | round _ _ takes rounds => exact Relation.ReflTransGen.head takes rounds
  | someRounds _ _ takes rounds => exact Relation.TransGen.head' takes rounds

/-- A mark stands for a group of the pattern and lies inside of what is taken, and between its ends
lies something that the pattern inside the group takes. -/
theorem exists_group (derives : Derives text pattern first last marks) {number start finish : Nat}
    (isMark : (number, start, finish) ∈ marks) :
    ∃ inner, (number, inner) ∈ pattern.groups ∧ first ≤ start ∧ finish ≤ last ∧
      Takes text inner start finish := by
  induction derives with
  | empty | one | here | skip | noRound => cases isMark
  | sequence leftDerives rightDerives leftHypothesis rightHypothesis =>
    rcases List.mem_append.1 isMark with isMark | isMark
    · obtain ⟨inner, isGroup, above, below, takes⟩ := rightHypothesis isMark
      exact ⟨inner, List.mem_append_right _ isGroup,
        Nat.le_trans leftDerives.takes.bounds.1 above, below, takes⟩
    · obtain ⟨inner, isGroup, above, below, takes⟩ := leftHypothesis isMark
      exact ⟨inner, List.mem_append_left _ isGroup, above,
        Nat.le_trans below rightDerives.takes.bounds.1, takes⟩
  | left _ inductionHypothesis =>
    obtain ⟨inner, isGroup, placed⟩ := inductionHypothesis isMark
    exact ⟨inner, List.mem_append_left _ isGroup, placed⟩
  | right _ inductionHypothesis =>
    obtain ⟨inner, isGroup, placed⟩ := inductionHypothesis isMark
    exact ⟨inner, List.mem_append_right _ isGroup, placed⟩
  | @group _ inner _ _ _ derives inductionHypothesis =>
    rcases List.mem_cons.1 isMark with isOwn | isMark
    · cases isOwn
      exact ⟨inner, List.mem_cons_self, Nat.le_refl _, Nat.le_refl _, derives.takes⟩
    · obtain ⟨deeper, isGroup, placed⟩ := inductionHypothesis isMark
      exact ⟨deeper, List.mem_cons_of_mem _ isGroup, placed⟩
  | once _ inductionHypothesis => exact inductionHypothesis isMark
  | round derives rounds inductionHypothesis roundsHypothesis
  | someRounds derives rounds inductionHypothesis roundsHypothesis =>
    rcases List.mem_append.1 isMark with isMark | isMark
    · obtain ⟨inner, isGroup, above, below, takes⟩ := roundsHypothesis isMark
      exact ⟨inner, isGroup, Nat.le_trans derives.takes.bounds.1 above, below, takes⟩
    · obtain ⟨inner, isGroup, above, below, takes⟩ := inductionHypothesis isMark
      exact ⟨inner, isGroup, above, Nat.le_trans below rounds.takes.bounds.1, takes⟩

end Derives

theorem exists_derives_repeatAny (eager : Bool) {inner : Pattern}
    (exists_derives : ∀ {first last}, Takes text inner first last →
      ∃ marks, Derives text inner first last marks)
    (rounds : Relation.ReflTransGen (Takes text inner) first last) :
    ∃ marks, Derives text (.repeatAny eager inner) first last marks := by
  induction rounds using Relation.ReflTransGen.head_induction_on with
  | refl => exact ⟨_, .noRound last⟩
  | head takes _ inductionHypothesis =>
    obtain ⟨marks, derives⟩ := exists_derives takes
    obtain ⟨later, rounds⟩ := inductionHypothesis
    exact ⟨_, .round derives rounds⟩

/-- A pattern takes something exactly if there is a derivation of it. -/
theorem takes_iff_exists_derives :
    Takes text pattern first last ↔ ∃ marks, Derives text pattern first last marks := by
  constructor
  · intro takes
    induction pattern generalizing first last with
    | empty =>
      cases takes
      exact ⟨_, .empty first⟩
    | one inClass =>
      obtain ⟨rfl, c, isChar, holds⟩ := takes
      exact ⟨_, .one isChar holds⟩
    | here place =>
      obtain ⟨rfl, isBetween⟩ := takes
      exact ⟨_, .here isBetween⟩
    | sequence left right leftHypothesis rightHypothesis =>
      obtain ⟨middle, takesLeft, takesRight⟩ := takes
      obtain ⟨marks, leftDerives⟩ := leftHypothesis takesLeft
      obtain ⟨later, rightDerives⟩ := rightHypothesis takesRight
      exact ⟨_, .sequence leftDerives rightDerives⟩
    | either left right leftHypothesis rightHypothesis =>
      rcases takes with takes | takes
      · exact (leftHypothesis takes).imp fun _ => .left
      · exact (rightHypothesis takes).imp fun _ => .right
    | group number inner inductionHypothesis =>
      obtain ⟨marks, derives⟩ := inductionHypothesis takes
      exact ⟨_, .group derives⟩
    | optional eager inner inductionHypothesis =>
      rcases takes with rfl | takes
      · exact ⟨_, .skip last⟩
      · exact (inductionHypothesis takes).imp fun _ => .once
    | repeatAny eager inner inductionHypothesis =>
      exact exists_derives_repeatAny eager inductionHypothesis takes
    | repeatSome eager inner inductionHypothesis =>
      obtain ⟨middle, takes, rounds⟩ := Relation.TransGen.head'_iff.1 takes
      obtain ⟨marks, derives⟩ := inductionHypothesis takes
      obtain ⟨later, rounds⟩ := exists_derives_repeatAny eager inductionHypothesis rounds
      exact ⟨_, .someRounds derives rounds⟩
  · rintro ⟨marks, derives⟩
    exact derives.takes

/-! ## Matches -/

/-- A pattern matches a part of a text, which may depend on what stands before and behind it. -/
def Matches (pattern : Pattern) (before whole after : Text) : Prop :=
  Takes (before ++ whole ++ after) pattern before.length (before ++ whole).length

/-- What stands between two positions of a text. -/
def between (text : Text) (first last : Nat) : Text :=
  (text.drop first).take (last - first)

section Between

variable (text) {middle : Nat}

theorem drop_eq_drop_drop (lower : first ≤ last) :
    text.drop last = (text.drop first).drop (last - first) := by
  rw [List.drop_drop, Nat.add_sub_cancel' lower]

theorem between_append_between (lower : first ≤ middle) (upper : middle ≤ last) :
    between text first middle ++ between text middle last = between text first last := by
  rw [between, between, between, drop_eq_drop_drop text lower, ← List.take_add]
  congr 1
  omega

theorem take_append_between (lower : first ≤ last) :
    text.take first ++ between text first last = text.take last := by
  rw [between, ← List.take_add, Nat.add_sub_cancel' lower]

theorem between_append_drop (lower : first ≤ last) :
    between text first last ++ text.drop last = text.drop first := by
  rw [between, drop_eq_drop_drop text lower, List.take_append_drop]

theorem split_at_between (lower : first ≤ last) :
    text = text.take first ++ between text first last ++ text.drop last := by
  rw [take_append_between text lower, List.take_append_drop]

end Between

theorem Takes.matches_between (takes : Takes text pattern first last)
    (inside : first ≤ text.length) :
    pattern.Matches (text.take first) (between text first last) (text.drop last) := by
  obtain ⟨lower, lastInside⟩ := takes.bounds
  rw [Matches, ← split_at_between text lower, take_append_between text lower,
    List.length_take_of_le inside, List.length_take_of_le (lastInside inside)]
  exact takes

/-- What is taken out of a text for the whole, which counts as group zero, and for each of so many
groups: what stands between the ends of the latest mark. A group without a mark took no part. -/
def taken (text : Text) (groups : Nat) (marks : Marks) : Captures :=
  (List.range (groups + 1)).map fun number =>
    (marks.lookup number).map fun mark => between text mark.1 mark.2

/-- What a match of a pattern takes out of a text: some derivation of a part of the text leaves
marks of the whole and of the groups that took part, and what the latest ones enclose is taken. -/
def AreTaken (pattern : Pattern) (groups : Nat) (text : Text) (captures : Captures) : Prop :=
  ∃ first last marks, first ≤ text.length ∧ Derives text (.group 0 pattern) first last marks ∧
    captures = taken text groups marks

variable {groups number : Nat} {marks : Marks} {captures : Captures}

theorem getElem?_taken (inside : number ≤ groups) :
    (taken text groups marks)[number]? =
      some ((marks.lookup number).map fun mark => between text mark.1 mark.2) := by
  rw [taken, List.getElem?_map, List.getElem?_range (Nat.lt_succ_of_le inside), Option.map_some]

theorem le_of_getElem?_taken {part : Option Text}
    (isPart : (taken text groups marks)[number]? = some part) : number ≤ groups := by
  have inside := (List.getElem?_eq_some_iff.1 isPart).1
  rw [taken, List.length_map, List.length_range] at inside
  exact Nat.le_of_lt_succ inside

/-- Nothing is taken for a group exactly if the derivation never passed it. -/
theorem getElem?_taken_eq_none_iff :
    (taken text groups marks)[number]? = some none ↔
      number ≤ groups ∧ ∀ mark ∈ marks, mark.1 ≠ number := by
  constructor
  · intro isNone
    have inside := le_of_getElem?_taken isNone
    rw [getElem?_taken inside, Option.some.injEq, Option.map_eq_none_iff,
      List.lookup_eq_none_iff] at isNone
    exact ⟨inside, fun mark isMark same => by simpa [same] using isNone mark isMark⟩
  · rintro ⟨inside, unmarked⟩
    rw [getElem?_taken inside, Option.some.injEq, Option.map_eq_none_iff, List.lookup_eq_none_iff]
    intro mark isMark
    simpa using (unmarked mark isMark).symm

/-- What is taken for a group is what its latest mark encloses. -/
theorem exists_mark_of_getElem?_taken {part : Text}
    (isPart : (taken text groups marks)[number]? = some (some part)) :
    ∃ first last, (number, first, last) ∈ marks ∧ between text first last = part := by
  rw [getElem?_taken (le_of_getElem?_taken isPart), Option.some.injEq,
    Option.map_eq_some_iff] at isPart
  obtain ⟨⟨first, last⟩, isLatest, isPart⟩ := isPart
  obtain ⟨later, earlier, rfl, -⟩ := List.lookup_eq_some_iff.1 isLatest
  exact ⟨first, last, List.mem_append_right _ List.mem_cons_self, isPart⟩

/-- The whole of what is taken is a part of the text that the pattern matches. What is taken for a
group lies inside of it, and the pattern inside the group matches it there. -/
theorem AreTaken.placed (areTaken : pattern.AreTaken groups text captures) :
    captures.length = groups + 1 ∧
      ∃ before whole after, text = before ++ whole ++ after ∧ pattern.Matches before whole after ∧
        captures[0]? = some (some whole) ∧
        ∀ number part, captures[number]? = some (some part) →
          ∃ inner lead rest, (number, inner) ∈ (group 0 pattern).groups ∧
            whole = lead ++ part ++ rest ∧ inner.Matches (before ++ lead) part (rest ++ after) := by
  obtain ⟨first, last, marks, inside, derives, rfl⟩ := areTaken
  have lower := derives.takes.bounds.1
  refine ⟨by simp [taken], text.take first, between text first last, text.drop last,
    split_at_between text lower, Takes.matches_between derives.takes inside, ?_, ?_⟩
  · cases derives with
    | group derives => rw [getElem?_taken (Nat.zero_le _), List.lookup_cons_self, Option.map_some]
  · intro number part isPart
    obtain ⟨start, finish, isMark, rfl⟩ := exists_mark_of_getElem?_taken isPart
    obtain ⟨inner, isGroup, above, below, takes⟩ := derives.exists_group isMark
    have ordered := takes.bounds.1
    refine ⟨inner, between text first start, between text finish last, isGroup, ?_, ?_⟩
    · rw [between_append_between text above ordered,
        between_append_between text (Nat.le_trans above ordered) below]
    · rw [take_append_between text above, between_append_drop text below]
      exact takes.matches_between
        (Nat.le_trans ordered (Nat.le_trans below (derives.takes.bounds.2 inside)))

end Folio.Pattern
