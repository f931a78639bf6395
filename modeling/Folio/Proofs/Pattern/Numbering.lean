import Folio.Pattern.Reader
import Folio.Proofs.Pattern.Way
import Mathlib.Tactic.SplitIfs

/-!
# The numbers of groups

The groups of a written pattern are numbered from one on in the order in which they are opened. So
no pattern that was read has a group zero, no group of it stands inside a group of the same number,
and the numbers go up to the count that was read with it.
-/

namespace Folio.Pattern

/-- The groups of a pattern have numbers above one bound and up to another, and inside a group all
numbers are above its own. -/
def IsNumbered (low high : Nat) (pattern : Pattern) : Prop :=
  ∀ entry ∈ pattern.groups, (low < entry.1 ∧ entry.1 ≤ high) ∧
    ∀ other ∈ entry.2.groups, entry.1 < other.1

section

variable {low high : Nat} {patterns : List Pattern} {inner : Pattern}

theorem IsNumbered.mono {less more : Nat} (numbered : inner.IsNumbered low high)
    (lower : less ≤ low) (higher : high ≤ more) : inner.IsNumbered less more := by
  intro entry member
  obtain ⟨⟨above, le⟩, inside⟩ := numbered entry member
  exact ⟨⟨Nat.lt_of_le_of_lt lower above, Nat.le_trans le higher⟩, inside⟩

theorem isNumbered_of_groups_eq_nil (noGroup : inner.groups = []) (low high : Nat) :
    inner.IsNumbered low high := by
  intro entry member
  rw [noGroup] at member
  cases member

/-- A group with a number of its own around what has greater numbers. -/
theorem IsNumbered.group {number : Nat} (numbered : inner.IsNumbered number high)
    (above : low < number) (le : number ≤ high) : (group number inner).IsNumbered low high := by
  have inside : inner.IsNumbered low high := numbered.mono (Nat.le_of_lt above) (Nat.le_refl high)
  refine List.forall_mem_cons.2 ⟨⟨⟨above, le⟩, ?_⟩, inside⟩
  exact fun other member => (numbered other member).1.1

theorem isNumbered_sequenceOf (numbered : ∀ pattern ∈ patterns, pattern.IsNumbered low high) :
    (sequenceOf patterns).IsNumbered low high := by
  fun_induction sequenceOf patterns with
  | case1 => exact isNumbered_of_groups_eq_nil rfl low high
  | case2 pattern => exact numbered pattern List.mem_cons_self
  | case3 first rest _ inductionHypothesis =>
    obtain ⟨isFirst, isRest⟩ := List.forall_mem_cons.1 numbered
    exact List.forall_mem_append.2 ⟨isFirst, inductionHypothesis isRest⟩

theorem isNumbered_eitherOf (numbered : ∀ pattern ∈ patterns, pattern.IsNumbered low high) :
    (eitherOf patterns).IsNumbered low high := by
  fun_induction eitherOf patterns with
  | case1 => exact isNumbered_of_groups_eq_nil rfl low high
  | case2 pattern => exact numbered pattern List.mem_cons_self
  | case3 first rest _ inductionHypothesis =>
    obtain ⟨isFirst, isRest⟩ := List.forall_mem_cons.1 numbered
    exact List.forall_mem_append.2 ⟨isFirst, inductionHypothesis isRest⟩

theorem isNumbered_atMost (numbered : inner.IsNumbered low high) (eager : Bool) (rounds : Nat) :
    (atMost eager inner rounds).IsNumbered low high := by
  induction rounds with
  | zero => exact isNumbered_of_groups_eq_nil rfl low high
  | succ rounds inductionHypothesis =>
    exact List.forall_mem_append.2 ⟨numbered, inductionHypothesis⟩

theorem isNumbered_bounded (numbered : inner.IsNumbered low high) (bounds : Bounds)
    (eager : Bool) : (bounded bounds eager inner).IsNumbered low high := by
  have followed (rounds : Nat) {last : Pattern} (isLast : last.IsNumbered low high) :
      (sequenceOf (List.replicate rounds inner ++ [last])).IsNumbered low high := by
    apply isNumbered_sequenceOf
    rw [List.forall_mem_append, List.forall_mem_singleton]
    exact ⟨fun pattern member => List.eq_of_mem_replicate member ▸ numbered, isLast⟩
  unfold bounded
  split
  · exact numbered
  · exact numbered
  · exact numbered
  · exact followed _ numbered
  · exact followed _ (isNumbered_atMost numbered eager _)

end

/-! ## Signs -/

theorem groups_pattern (escape : Escape) : escape.pattern.groups = [] := by
  cases escape <;> rfl

theorem repeatSign_ne_atom (bounds : Bounds) (text : Text) {atom : Nested Pattern} :
    (repeatSign bounds text).1 ≠ .atom atom := by
  unfold repeatSign
  split <;> exact Sign.noConfusion

/-- A sign that is a pattern of its own has no groups. -/
theorem groups_of_sign? {c : Char} {text after : Text} {atom : Nested Pattern}
    (isAtom : sign? c text = .ok (.atom atom, after)) : atom.form.groups = [] := by
  have noRepeat (bounds : Bounds) (text : Text) :
      (Except.ok (repeatSign bounds text) : Except PatternFault (Sign × Text)) ≠
        .ok (.atom atom, after) :=
    fun same => repeatSign_ne_atom bounds text (congrArg Prod.fst (Except.ok.inj same))
  unfold sign? at isAtom
  split at isAtom
  case h_6 =>
    split at isAtom <;> cases isAtom
  case h_7 =>
    simp only [bind, Except.bind] at isAtom
    split at isAtom
    · cases isAtom
    · cases isAtom
      rfl
  case h_8 | h_9 | h_10 => exact absurd isAtom (noRepeat _ _)
  case h_11 =>
    simp only [bind, Except.bind] at isAtom
    split at isAtom
    · cases isAtom
    · exact absurd isAtom (noRepeat _ _)
  case h_12 =>
    simp only [bind, Except.bind] at isAtom
    split at isAtom
    · cases isAtom
    · cases isAtom
      exact groups_pattern _
  all_goals
    cases isAtom <;> rfl

/-! ## Levels of parentheses -/

theorem isNumbered_sequence {low high : Nat} {parts : List (Nested Pattern)}
    (numbered : ∀ part ∈ parts, part.form.IsNumbered low high) :
    (Nested.sequence parts).form.IsNumbered low high :=
  isNumbered_sequenceOf (List.forall_mem_map.2 numbered)

theorem isNumbered_repeated? {low high : Nat} {bounds : Bounds} {eager : Bool}
    {inner repeated : Nested Pattern} (numbered : inner.form.IsNumbered low high)
    (isRepeated : inner.repeated? bounds eager = .ok repeated) :
    repeated.form.IsNumbered low high := by
  rw [Nested.repeated?] at isRepeated
  split at isRepeated
  · cases isRepeated
  · cases isRepeated
    exact isNumbered_bounded numbered _ eager

theorem isNumbered_either {low high : Nat} {alternatives : List (Nested Pattern)}
    (numbered : ∀ alternative ∈ alternatives, alternative.form.IsNumbered low high) :
    (Nested.either alternatives).form.IsNumbered low high :=
  isNumbered_eitherOf (List.forall_mem_map.2 numbered)

/-- Everything that was read at a level is numbered. -/
structure Level.IsNumbered (low high : Nat) (level : Level) : Prop where
  alternatives : ∀ alternative ∈ level.alternatives, alternative.form.IsNumbered low high
  parts : ∀ part ∈ level.parts, part.form.IsNumbered low high

namespace Level.IsNumbered

variable {low high more : Nat} {level : Level}

theorem mono (numbered : level.IsNumbered low high) (le : high ≤ more) :
    level.IsNumbered low more where
  alternatives alternative member :=
    (numbered.alternatives alternative member).mono (Nat.le_refl low) le
  parts part member := (numbered.parts part member).mono (Nat.le_refl low) le

theorem sequence (numbered : level.IsNumbered low high) :
    (Nested.sequence level.parts.reverse).form.IsNumbered low high :=
  isNumbered_sequence fun part member => numbered.parts part (List.mem_reverse.1 member)

theorem inside (numbered : level.IsNumbered low high) :
    level.inside.form.IsNumbered low high := by
  apply isNumbered_either
  intro alternative member
  rcases List.mem_cons.1 (List.mem_reverse.1 member) with rfl | member
  · exact numbered.sequence
  · exact numbered.alternatives alternative member

end Level.IsNumbered

/-- The number of the innermost group that is open, and zero if none is. -/
def openGroup : List Level → Nat
  | [] => 0
  | level :: outer => level.group.getD (openGroup outer)

/-- At every level what was read has numbers above that of the innermost group that is open there,
and groups that are open inside one another have rising numbers. -/
def AreNumbered (high : Nat) : List Level → Prop
  | [] => True
  | level :: outer =>
    level.IsNumbered (openGroup (level :: outer)) high ∧
      (∀ number ∈ level.group, openGroup outer < number ∧ number ≤ high) ∧ AreNumbered high outer

namespace AreNumbered

variable {high more : Nat} {level : Level} {outer : List Level}

theorem mono {levels : List Level} (numbered : AreNumbered high levels) (le : high ≤ more) :
    AreNumbered more levels := by
  induction levels with
  | nil => trivial
  | cons level outer inductionHypothesis =>
    obtain ⟨inner, group, outer⟩ := numbered
    exact ⟨inner.mono le, fun number member => (group number member).imp_right (Nat.le_trans · le),
      inductionHypothesis outer⟩

theorem openGroup_le {levels : List Level} (numbered : AreNumbered high levels) :
    openGroup levels ≤ high := by
  induction levels with
  | nil => exact Nat.zero_le high
  | cons level outer inductionHypothesis =>
    obtain ⟨-, group, outer⟩ := numbered
    rw [openGroup]
    cases isGroup : level.group with
    | none => exact inductionHypothesis outer
    | some number => exact (group number isGroup).2

theorem finish (numbered : AreNumbered high (level :: outer)) :
    level.finish.form.IsNumbered (openGroup outer) high := by
  obtain ⟨inner, group, -⟩ := numbered
  have inside := inner.inside
  unfold Level.finish
  split
  · next number isGroup =>
    rw [openGroup, isGroup] at inside
    exact inside.group (group number isGroup).1 (group number isGroup).2
  · next noGroup =>
    rwa [openGroup, noGroup] at inside

end AreNumbered

/-- Reading a sign keeps the levels numbered. -/
theorem areNumbered_step {reading next : Reading} {sign : Sign}
    (numbered : AreNumbered reading.groups (reading.inner :: reading.outer))
    (noGroups : ∀ atom, sign = .atom atom → atom.form.groups = [])
    (isNext : reading.step sign = .ok next) :
    AreNumbered next.groups (next.inner :: next.outer) := by
  obtain ⟨inner, group, outer⟩ := numbered
  cases sign with
  | atom atom =>
    cases isNext
    have isAtom := isNumbered_of_groups_eq_nil (noGroups atom rfl)
    exact ⟨⟨inner.alternatives, List.forall_mem_cons.2 ⟨isAtom _ _, inner.parts⟩⟩, group, outer⟩
  | bar =>
    cases isNext
    exact ⟨⟨List.forall_mem_cons.2 ⟨inner.sequence, inner.alternatives⟩, by simp⟩, group, outer⟩
  | openGroup captures =>
    cases isNext
    cases captures with
    | true =>
      have rising : AreNumbered (reading.groups + 1) (reading.inner :: reading.outer) :=
        AreNumbered.mono ⟨inner, group, outer⟩ (Nat.le_succ _)
      refine ⟨⟨by simp, by simp⟩, ?_, rising⟩
      rintro number ⟨⟩
      exact ⟨Nat.lt_succ_of_le (AreNumbered.openGroup_le ⟨inner, group, outer⟩), Nat.le_refl _⟩
    | false => exact ⟨⟨by simp, by simp⟩, by simp, inner, group, outer⟩
  | closeGroup =>
    have isFinished := AreNumbered.finish ⟨inner, group, outer⟩
    rw [Reading.step] at isNext
    split at isNext
    · cases isNext
    · next level levels isOuter =>
      cases isNext
      rw [isOuter] at outer isFinished
      obtain ⟨isLevel, isGroup, outer⟩ := outer
      exact ⟨⟨isLevel.alternatives, List.forall_mem_cons.2 ⟨isFinished, isLevel.parts⟩⟩, isGroup,
        outer⟩
  | repeated bounds eager =>
    rw [Reading.step] at isNext
    split at isNext
    · cases isNext
    · next last parts isParts =>
      simp only [bind, Except.bind] at isNext
      split at isNext
      · cases isNext
      · next repeated isRepeated =>
        cases isNext
        have areParts := inner.parts
        rw [isParts] at areParts
        obtain ⟨isLast, areParts⟩ := List.forall_mem_cons.1 areParts
        exact ⟨⟨inner.alternatives,
          List.forall_mem_cons.2 ⟨isNumbered_repeated? isLast isRepeated, areParts⟩⟩, group, outer⟩

/-- Reading signs keeps the levels numbered. -/
theorem areNumbered_readSigns {fuel : Nat} {reading last : Reading} {text : Text}
    (numbered : AreNumbered reading.groups (reading.inner :: reading.outer))
    (isLast : readSigns fuel reading text = .ok last) :
    AreNumbered last.groups (last.inner :: last.outer) := by
  induction fuel generalizing reading text with
  | zero => cases text <;> cases isLast <;> exact numbered
  | succ fuel inductionHypothesis =>
    cases text with
    | nil =>
      cases isLast
      exact numbered
    | cons c text =>
      simp only [readSigns, bind, Except.bind] at isLast
      split at isLast
      · cases isLast
      · next result isSign =>
        obtain ⟨sign, after⟩ := result
        split at isLast
        · cases isLast
        · next next isNext =>
          refine inductionHypothesis (areNumbered_step numbered ?_ isNext) isLast
          rintro atom rfl
          exact groups_of_sign? isSign

/-- The groups of a pattern that was read have the numbers from one up to their count, and greater
numbers further inside. -/
theorem isNumbered_of_ofText {text : Text} {pattern : Pattern} {groups : Nat}
    (isPattern : ofText text = .ok (pattern, groups)) : pattern.IsNumbered 0 groups := by
  have start : AreNumbered 0 [⟨none, [], []⟩] := ⟨⟨by simp, by simp⟩, by simp, trivial⟩
  simp only [ofText, bind, Except.bind] at isPattern
  split at isPattern
  · cases isPattern
  · next last isLast =>
    have numbered := areNumbered_readSigns start isLast
    split_ifs at isPattern
    cases isPattern
    exact numbered.1.inside.mono (Nat.zero_le _) (Nat.le_refl _)

/-- In a pattern that was read no group stands inside a group of the same number, and the whole is
no such group either. -/
theorem areDistinct_of_ofText {text : Text} {pattern : Pattern} {groups : Nat}
    (isPattern : ofText text = .ok (pattern, groups)) :
    AreDistinct (group 0 pattern).groups := by
  have numbered := isNumbered_of_ofText isPattern
  refine List.forall_mem_cons.2 ⟨?_, ?_⟩
  · exact fun other member => Nat.ne_of_gt (numbered other member).1.1
  · exact fun entry member other inside => Nat.ne_of_gt ((numbered entry member).2 other inside)

end Folio.Pattern
