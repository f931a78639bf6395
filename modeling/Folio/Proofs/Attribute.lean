import Folio.Attribute
import Folio.Proofs.Text.Mark
import Folio.Proofs.Text.Run

/-!
# Attribute lists in a text

An attribute that is written in full, with its value between quotation marks, is read back as it
is meant, whatever follows it. Of any attribute list, well written or not, the characters of a
value come from the text, unless the value is the one that a bare flag stands for.
-/

namespace Folio.Attribute

open Text

/-! ## One attribute -/

/-- A key is the run up to an equals sign, if that is what the run ends at. -/
theorem keyed?_of_run {text key tail : Text}
    (read : run (fun c => !(c == '=' || Unicode.isBlank c)) text = (key, tail)) :
    keyed? text =
      if key = [] then none
      else (dropLead? ['='] tail).map fun rest => (key, readValue rest) := by
  rw [keyed?, read]
  cases key with
  | nil => rfl
  | cons d key =>
    rw [if_neg (List.cons_ne_nil d key)]
    cases tail with
    | nil => rfl
    | cons c rest =>
      rw [dropLead?_cons_cons, dropLead?_nil]
      by_cases equals : '=' = c
      · subst equals
        rfl
      · rw [if_neg equals]
        split
        · rfl
        · next same => exact absurd (List.cons.inj (Prod.mk.inj same).2).1.symm equals
        · rfl

/-- A key is not empty and holds neither an equals sign nor whitespace. After it and an equals sign
comes the value. -/
theorem keyed?_eq_some_iff {text key : Text} {found : Text × Text} :
    keyed? text = some (key, found) ↔
      key ≠ [] ∧ (∀ c ∈ key, (c == '=' || Unicode.isBlank c) = false) ∧
        ∃ rest, text = key ++ '=' :: rest ∧ readValue rest = found := by
  constructor
  · intro keyed
    cases read : run (fun c => !(c == '=' || Unicode.isBlank c)) text with
    | mk word tail =>
      rcases eq_append_of_run read with ⟨rfl, all⟩
      rw [keyed?_of_run read] at keyed
      split at keyed
      · cases keyed
      · next nonempty =>
        rcases Option.map_eq_some_iff.1 keyed with ⟨rest, equals, same⟩
        obtain ⟨rfl, isFound⟩ := Prod.mk.inj same
        obtain rfl : tail = '=' :: rest := dropLead?_eq_some_iff.1 equals
        refine ⟨nonempty, ?_, rest, rfl, isFound⟩
        intro c member
        simpa using all c member
  · rintro ⟨nonempty, plainKey, rest, rfl, rfl⟩
    have read : run (fun c => !(c == '=' || Unicode.isBlank c)) (key ++ '=' :: rest) =
        (key, '=' :: rest) :=
      run_append_cons (fun c member => by rw [plainKey c member]; rfl) rfl rest
    rw [keyed?_of_run read, if_neg nonempty]
    rfl

/-- The attribute at the start of a text, with what follows it. -/
def turn (remaining : Text) : Attribute × Text :=
  match keyed? remaining with
  | some (key, value, rest) => (⟨Unicode.lowerCase key, value⟩, rest)
  | none =>
    let (flag, rest) := run (fun c => !Unicode.isBlank c) remaining
    (⟨Unicode.lowerCase flag, flagValue⟩, rest)

theorem attribute?_cons (c : Char) (text : Text) :
    attribute? (c :: text) =
      if Unicode.isBlank c then none else some (turn (c :: text)) := by
  rw [attribute?, turn]
  cases Unicode.isBlank c with
  | true => rfl
  | false => cases keyed? (c :: text) <;> rfl

/-- An attribute has a key and a value, or it is a flag, which holds no whitespace. -/
theorem keyed_or_flag_of_attribute? {text after : Text} {field : Attribute}
    (found : attribute? text = some (field, after)) :
    (∃ key value, keyed? text = some (key, value, after) ∧
      field = ⟨Unicode.lowerCase key, value⟩) ∨
    ∃ flag, flag ≠ [] ∧ (∀ c ∈ flag, Unicode.isBlank c = false) ∧ text = flag ++ after ∧
      field = ⟨Unicode.lowerCase flag, flagValue⟩ := by
  cases text with
  | nil => cases found
  | cons c text =>
    rw [attribute?_cons] at found
    split at found
    · cases found
    · next visible =>
      rw [turn] at found
      cases keyed : keyed? (c :: text) with
      | some entry =>
        rcases entry with ⟨key, value, rest⟩
        rw [keyed] at found
        obtain ⟨rfl, rfl⟩ := Prod.mk.inj (Option.some.inj found)
        exact .inl ⟨key, value, rfl, rfl⟩
      | none =>
        rw [keyed] at found
        obtain ⟨rfl, rfl⟩ := Prod.mk.inj (Option.some.inj found)
        refine .inr ⟨_, ?_, ?_, List.takeWhile_append_dropWhile.symm, rfl⟩
        · simp [visible]
        · intro d member
          simpa using (eq_append_of_run rfl).2 d member

/-! ## Attributes written in full -/

/-- An attribute with its value between quotation marks. -/
def written (key value : Text) : Text :=
  key ++ '=' :: '"' :: (value ++ ['"'])

theorem quotedValue?_append {mark : Char} {value : Text} (noMark : mark ∉ value) (rest : Text) :
    quotedValue? mark (mark :: (value ++ mark :: rest)) = some (value, rest) := by
  have inert : Inert (dropLead? [mark]) value := inert_of_not_mem noMark
  have closed : cutAt? [mark] (mark :: rest) = some ([], rest) :=
    cutAt?_mark_append (List.cons_ne_nil mark []) rest
  rw [quotedValue?, if_pos rfl, cutAt?_append_of_inert inert, closed]
  simp

/-- A value between quotation marks of either kind ends at the next mark of its kind. -/
theorem readValue_quoted {mark : Char} {value : Text} (isMark : mark = '"' ∨ mark = '\'')
    (noMark : mark ∉ value) (rest : Text) :
    readValue (mark :: (value ++ mark :: rest)) = (value, rest) := by
  have found := quotedValue?_append noMark rest
  rcases isMark with rfl | rfl
  · rw [readValue, found]
  · have missed : quotedValue? '"' ('\'' :: (value ++ '\'' :: rest)) = none := by
      simp [quotedValue?]
    rw [readValue, missed, found]

/-- After a key and an equals sign comes the value. -/
theorem attribute?_key_append {key : Text} (nonempty : key ≠ [])
    (plainKey : ∀ c ∈ key, (c == '=' || Unicode.isBlank c) = false) (text : Text) :
    attribute? (key ++ '=' :: text) =
      some (⟨Unicode.lowerCase key, (readValue text).1⟩, (readValue text).2) := by
  have keyed := keyed?_eq_some_iff.2 ⟨nonempty, plainKey, text, rfl, rfl⟩
  cases key with
  | nil => exact absurd rfl nonempty
  | cons c key =>
    have visible : Unicode.isBlank c = false :=
      (Bool.or_eq_false_iff.1 (plainKey c (List.mem_cons_self ..))).2
    rw [List.cons_append] at keyed ⊢
    rw [attribute?_cons, visible, turn, keyed]
    rfl

/-- An attribute that is written in full is read under its key in lower case. -/
theorem readsAs_written {key value : Text} (nonempty : key ≠ [])
    (plainKey : ∀ c ∈ key, (c == '=' || Unicode.isBlank c) = false) (noMark : '"' ∉ value) :
    ReadsAs attribute? (written key value) ⟨Unicode.lowerCase key, value⟩ := by
  refine ⟨by simp [written], ?_⟩
  intro rest
  have split : written key value ++ rest = key ++ '=' :: '"' :: (value ++ '"' :: rest) := by
    simp [written]
  rw [split, attribute?_key_append nonempty plainKey, readValue_quoted (.inl rfl) noMark]

/-- No attribute starts at whitespace. -/
theorem attribute?_of_blank {c : Char} (blank : Unicode.isBlank c = true) (text : Text) :
    attribute? (c :: text) = none := by
  rw [attribute?_cons, if_pos blank]

/-! ## Where values come from -/

theorem exists_append_of_quotedValue? {mark : Char} {text value after : Text}
    (found : quotedValue? mark text = some (value, after)) :
    ∃ taken, text = taken ++ after ∧ value ⊆ taken := by
  cases text with
  | nil => simp [quotedValue?] at found
  | cons c text =>
    rw [quotedValue?] at found
    split at found
    · refine ⟨c :: value ++ [mark], by rw [eq_of_cutAt? found]; simp, ?_⟩
      intro d member
      simp [member]
    · simp at found

/-- The value after an equals sign is part of what is read. -/
theorem exists_append_of_readValue (text : Text) :
    ∃ taken, text = taken ++ (readValue text).2 ∧ (readValue text).1 ⊆ taken := by
  unfold readValue
  split
  · next value found => exact exists_append_of_quotedValue? found
  · split
    · next value found => exact exists_append_of_quotedValue? found
    · exact ⟨_, (run_append _ text).symm, List.Subset.refl _⟩

/-- An attribute takes at least one character. Its value is part of what it takes, or the one that
a flag stands for. -/
theorem exists_append_of_attribute? {text after : Text} {field : Attribute}
    (found : attribute? text = some (field, after)) :
    ∃ taken, taken ≠ [] ∧ text = taken ++ after ∧
      (field.value = flagValue ∨ field.value ⊆ taken) := by
  rcases keyed_or_flag_of_attribute? found with
    ⟨key, value, keyed, rfl⟩ | ⟨flag, nonempty, -, rfl, rfl⟩
  · rcases keyed?_eq_some_iff.1 keyed with ⟨-, -, rest, rfl, isFound⟩
    rcases exists_append_of_readValue rest with ⟨taken, split, inside⟩
    rw [isFound] at split inside
    refine ⟨key ++ '=' :: taken, by simp, ?_, .inr ?_⟩
    · rw [split]
      simp
    · intro c member
      simp [inside member]
  · exact ⟨flag, nonempty, rfl, .inl rfl⟩

theorem attribute?_proper : Proper attribute? := by
  intro text after field found
  obtain ⟨taken, nonempty, split, -⟩ := exists_append_of_attribute? found
  exact ⟨taken, nonempty, split⟩

theorem value_subset_of_mem_list {text : Text} {field : Attribute}
    (member : field ∈ list text) : field.value = flagValue ∨ field.value ⊆ text := by
  rcases exists_found_of_mem_items attribute?_proper member with
    ⟨before, taken, after, rfl, found⟩
  rcases exists_append_of_attribute? found with ⟨source, -, split, isValue⟩
  obtain rfl := List.append_cancel_right split
  apply isValue.imp_right
  intro inside c isIn
  exact List.mem_append_right before (List.mem_append_left after (inside isIn))

/-- The value of a key is the one that a flag stands for, or its characters come from the text. -/
theorem lookup?_subset {key text value : Text} (found : lookup? key (list text) = some value) :
    value = flagValue ∨ value ⊆ text := by
  obtain ⟨field, isFirst, rfl⟩ := Option.map_eq_some_iff.1 found
  exact value_subset_of_mem_list (List.mem_reverse.1 (List.mem_of_find?_eq_some isFirst))

end Folio.Attribute
