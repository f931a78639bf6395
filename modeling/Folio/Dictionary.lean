import Folio.Text.Basic

/-!
# Dictionaries

A dictionary gives texts to names. Names that are set again lose their earlier text.
-/

namespace Folio

/-- Names with their texts; every name stands once. -/
structure Dictionary where
  entries : List (Text × Text)
deriving DecidableEq, Repr

namespace Dictionary

/-- The dictionary without names. -/
def empty : Dictionary := ⟨[]⟩

/-- The text of a name. -/
def find? (dictionary : Dictionary) (name : Text) : Option Text :=
  dictionary.entries.lookup name

/-- Gives a text to a name. -/
def insert (dictionary : Dictionary) (name text : Text) : Dictionary :=
  ⟨(name, text) :: dictionary.entries.filter fun entry => !(entry.1 == name)⟩

/-- Gives texts to names in list order. -/
def insertAll (dictionary : Dictionary) (entries : List (Text × Text)) : Dictionary :=
  entries.foldl (fun dictionary (name, text) => dictionary.insert name text) dictionary

/-- The dictionary that pairs make in list order. -/
def ofList (entries : List (Text × Text)) : Dictionary :=
  empty.insertAll entries

/-- All names of both dictionaries; where both have a name, the text of `upper`. -/
def overlay (lower upper : Dictionary) : Dictionary :=
  lower.insertAll upper.entries.reverse

@[simp]
theorem find?_empty (name : Text) : empty.find? name = none :=
  rfl

theorem lookup_cons_ite {κ β : Type} [BEq κ] [LawfulBEq κ] [DecidableEq κ] (name other : κ)
    (value : β) (entries : List (κ × β)) :
    ((other, value) :: entries).lookup name =
      if name = other then some value else entries.lookup name := by
  by_cases same : name = other
  · simp [same]
  · rw [if_neg same, List.lookup_cons, beq_eq_false_iff_ne.2 same]

theorem lookup_filter_ne {κ β : Type} [BEq κ] [LawfulBEq κ] {name other : κ}
    (different : other ≠ name) (entries : List (κ × β)) :
    (entries.filter fun entry => !(entry.1 == name)).lookup other = entries.lookup other := by
  induction entries with
  | nil => rfl
  | cons entry rest inductionHypothesis =>
    obtain ⟨key, value⟩ := entry
    by_cases same : key = name
    · subst same
      have missed : (other == key) = false := by simpa using different
      simp [List.lookup_cons, missed, inductionHypothesis]
    · have kept : (!(key == name)) = true := by simpa using same
      simp only [List.filter_cons, kept, if_true, List.lookup_cons, inductionHypothesis]

/-- A name that has been set has the text it was given; every other name keeps its own. -/
theorem find?_insert (dictionary : Dictionary) (name text other : Text) :
    (dictionary.insert name text).find? other =
      if other = name then some text else dictionary.find? other := by
  by_cases same : other = name
  · simp [insert, find?, same]
  · rw [if_neg same, find?, insert, lookup_cons_ite, if_neg same, lookup_filter_ne same, find?]

/-- Of texts that are given to one name in list order, the last one counts. -/
theorem find?_insertAll (dictionary : Dictionary) (entries : List (Text × Text)) (name : Text) :
    (dictionary.insertAll entries).find? name =
      (entries.reverse.lookup name).or (dictionary.find? name) := by
  unfold insertAll
  induction entries generalizing dictionary with
  | nil => rfl
  | cons entry entries inductionHypothesis =>
    obtain ⟨other, text⟩ := entry
    rw [List.foldl_cons, inductionHypothesis, find?_insert, List.reverse_cons,
      List.lookup_append, Option.or_assoc, lookup_cons_ite]
    by_cases same : name = other <;> simp [same]

end Dictionary

end Folio
