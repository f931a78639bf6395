import Folio.Text.Basic

/-!
# Runs of a class of characters

The longest start of a text in a class ends at the first character outside the class, and a text
without such a character is one run.
-/

namespace Folio.Text

/-- A property of all characters of a text is decided along the text, and not by going through all
characters that there are. -/
instance (priority := 1100) decidableForallMem {property : Char → Prop} [DecidablePred property]
    (text : Text) : Decidable (∀ c ∈ text, property c) :=
  List.decidableBAll property text

/-- The run of a class goes on over a text of that class. -/
theorem run_append_of_all {inClass : Char → Bool} {word : Text}
    (all : ∀ c ∈ word, inClass c = true) (rest : Text) :
    run inClass (word ++ rest) = (word ++ (run inClass rest).1, (run inClass rest).2) := by
  rw [run, List.takeWhile_append_of_pos all, List.dropWhile_append_of_pos all]
  rfl

/-- A text of a class is one run. -/
theorem run_of_all {inClass : Char → Bool} {word : Text} (all : ∀ c ∈ word, inClass c = true) :
    run inClass word = (word, []) := by
  have whole := run_append_of_all all []
  rw [List.append_nil] at whole
  rw [whole, run, List.takeWhile_nil, List.append_nil, List.dropWhile_nil]

theorem run_cons_of_neg {inClass : Char → Bool} {c : Char} (outside : inClass c = false)
    (rest : Text) : run inClass (c :: rest) = ([], c :: rest) := by
  simp [run, outside]

/-- A run ends at the first character outside the class. -/
theorem run_append_cons {inClass : Char → Bool} {word : Text} {c : Char}
    (all : ∀ d ∈ word, inClass d = true) (outside : inClass c = false) (rest : Text) :
    run inClass (word ++ c :: rest) = (word, c :: rest) := by
  rw [run_append_of_all all, run_cons_of_neg outside, List.append_nil]

/-- A run and what it leaves are the text, and all of the run lies in the class. -/
theorem eq_append_of_run {inClass : Char → Bool} {text word rest : Text}
    (found : run inClass text = (word, rest)) :
    text = word ++ rest ∧ ∀ c ∈ word, inClass c = true := by
  obtain ⟨rfl, rfl⟩ := Prod.mk.inj found
  refine ⟨List.takeWhile_append_dropWhile.symm, ?_⟩
  intro c member
  exact List.all_eq_true.1 List.all_takeWhile c member

/-- The run of a class is the one start of a text in the class that goes on with nothing or with a
character outside. -/
theorem run_eq_iff {inClass : Char → Bool} {text word rest : Text} :
    run inClass text = (word, rest) ↔
      text = word ++ rest ∧ (∀ c ∈ word, inClass c = true) ∧
        ∀ c, rest.head? = some c → inClass c = false := by
  constructor
  · intro found
    obtain ⟨split, all⟩ := eq_append_of_run found
    refine ⟨split, all, ?_⟩
    intro c isHead
    obtain ⟨more, rfl⟩ := List.head?_eq_some_iff.1 isHead
    rw [split, run_append_of_all all] at found
    cases inside : inClass c with
    | false => rfl
    | true => simp [run, inside] at found
  · rintro ⟨rfl, all, maximal⟩
    cases rest with
    | nil => rw [List.append_nil, run_of_all all]
    | cons c rest => exact run_append_cons all (maximal c rfl) rest

/-- A text inside a tag neither begins nor ends a tag. -/
theorem forall_inside_iff {word : Text} :
    (∀ c ∈ word, (!(c == '<' || c == '>')) = true) ↔ '<' ∉ word ∧ '>' ∉ word := by
  constructor
  · intro inside
    constructor
    · exact fun member => by simpa using inside _ member
    · exact fun member => by simpa using inside _ member
  · rintro ⟨noBegin, noEnd⟩ c member
    have notBegin : c ≠ '<' := fun same => noBegin (same ▸ member)
    have notEnd : c ≠ '>' := fun same => noEnd (same ▸ member)
    simp [notBegin, notEnd]

/-- A text lies in a class, or it has a first character outside. -/
theorem all_or_first_outside (inClass : Char → Bool) (text : Text) :
    (∀ c ∈ text, inClass c = true) ∨
      ∃ word c rest, text = word ++ c :: rest ∧ (∀ d ∈ word, inClass d = true) ∧
        inClass c = false := by
  induction text with
  | nil => exact .inl (by simp)
  | cons d text inductionHypothesis =>
    cases inside : inClass d with
    | false => exact .inr ⟨[], d, text, rfl, by simp, inside⟩
    | true =>
      rcases inductionHypothesis with all | ⟨word, c, rest, rfl, wordAll, outside⟩
      · exact .inl (List.forall_mem_cons.2 ⟨inside, all⟩)
      · exact .inr ⟨d :: word, c, rest, rfl, List.forall_mem_cons.2 ⟨inside, wordAll⟩, outside⟩

end Folio.Text
