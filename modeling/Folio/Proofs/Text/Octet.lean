import Folio.Proofs.Text.Run
import Folio.Proofs.Text.Utf8

/-!
# Places in a text counted in octets

A place in a text can be given by the number of octets before it. A text can be cut there only if a
character begins at the place or the text ends: an offset inside a character, or past the end, is
refused. The offset of the first character of a class is always one at which the text can be cut,
and if that character takes a single octet, so is the next offset.
-/

namespace Folio.Text

/-- The number of octets of a text. -/
def octets (text : Text) : Nat :=
  (toUtf8 text).length

@[simp]
theorem octets_nil : octets [] = 0 :=
  rfl

@[simp]
theorem octets_cons (c : Char) (text : Text) :
    octets (c :: text) = (utf8Char c).length + octets text := by
  simp [octets, toUtf8]

@[simp]
theorem octets_append (first second : Text) :
    octets (first ++ second) = octets first + octets second := by
  simp [octets, toUtf8]

@[simp]
theorem octets_eq_zero_iff {text : Text} : octets text = 0 ↔ text = [] := by
  cases text with
  | nil => simp
  | cons c text => simp [utf8Char_ne_nil]

/-! ## Cutting -/

/-- The parts of a text before and after an offset, if the text can be cut there. -/
def cutAtOctet? : (offset : Nat) → Text → Option (Text × Text)
  | 0, text => some ([], text)
  | _ + 1, [] => none
  | offset + 1, c :: text =>
    if (utf8Char c).length ≤ offset + 1 then
      (cutAtOctet? (offset + 1 - (utf8Char c).length) text).map fun (before, after) =>
        (c :: before, after)
    else none

theorem cutAtOctet?_append (before after : Text) :
    cutAtOctet? (octets before) (before ++ after) = some (before, after) := by
  induction before with
  | nil => rw [octets_nil, cutAtOctet?, List.nil_append]
  | cons c before inductionHypothesis =>
    obtain ⟨offset, size⟩ : ∃ offset, octets (c :: before) = offset + 1 :=
      Nat.exists_eq_succ_of_ne_zero (by simp [utf8Char_ne_nil])
    have later : offset + 1 - (utf8Char c).length = octets before := by
      rw [← size, octets_cons, Nat.add_sub_cancel_left]
    have fits : (utf8Char c).length ≤ offset + 1 := by
      rw [← size, octets_cons]
      exact Nat.le_add_right ..
    rw [size, List.cons_append, cutAtOctet?, if_pos fits, later, inductionHypothesis]
    rfl

theorem eq_append_of_cutAtOctet? {offset : Nat} {text before after : Text}
    (cut : cutAtOctet? offset text = some (before, after)) :
    text = before ++ after ∧ octets before = offset := by
  fun_induction cutAtOctet? offset text generalizing before with
  | case1 text =>
    obtain ⟨rfl, rfl⟩ := Prod.mk.inj (Option.some.inj cut)
    exact ⟨rfl, rfl⟩
  | case2 offset => cases cut
  | case3 offset c text fits inductionHypothesis =>
    rcases Option.map_eq_some_iff.1 cut with ⟨⟨start, rest⟩, found, same⟩
    obtain ⟨rfl, rfl⟩ := Prod.mk.inj same
    rcases inductionHypothesis found with ⟨rfl, size⟩
    refine ⟨rfl, ?_⟩
    rw [octets_cons, size]
    omega
  | case4 offset c text tooLong => cases cut

/-- A text can be cut at an offset just where it has a start of so many octets. -/
theorem cutAtOctet?_eq_some_iff {offset : Nat} {text before after : Text} :
    cutAtOctet? offset text = some (before, after) ↔
      text = before ++ after ∧ octets before = offset := by
  constructor
  · exact eq_append_of_cutAtOctet?
  · rintro ⟨rfl, rfl⟩
    exact cutAtOctet?_append before after

/-- An offset at which a text cannot be cut. -/
structure BadOffset where
  offset : Nat
  text : Text
deriving DecidableEq, Repr

/-- Cuts a text at an offset. -/
def cutAtOctet (offset : Nat) (text : Text) : Except BadOffset (Text × Text) :=
  match cutAtOctet? offset text with
  | some parts => .ok parts
  | none => .error ⟨offset, text⟩

theorem cutAtOctet_append {before : Text} {offset : Nat} (size : octets before = offset)
    (after : Text) : cutAtOctet offset (before ++ after) = .ok (before, after) := by
  rw [cutAtOctet, cutAtOctet?_eq_some_iff.2 ⟨rfl, size⟩]

/-! ## Searching -/

/-- The offset of the first character of a class. -/
def octetOffset? (inClass : Char → Bool) : Text → Option Nat
  | [] => none
  | c :: text =>
    if inClass c then some 0
    else (octetOffset? inClass text).map ((utf8Char c).length + ·)

theorem octetOffset?_append {inClass : Char → Bool} {word : Text}
    (outside : ∀ c ∈ word, inClass c = false) (rest : Text) :
    octetOffset? inClass (word ++ rest) = (octetOffset? inClass rest).map (octets word + ·) := by
  induction word with
  | nil => simp
  | cons c word inductionHypothesis =>
    rcases List.forall_mem_cons.1 outside with ⟨first, outside⟩
    rw [List.cons_append, octetOffset?, first, inductionHypothesis outside, octets_cons]
    simp [Function.comp_def, Nat.add_assoc]

/-- The first character of a class stands where the run of other characters ends. -/
theorem octetOffset?_of_run {inClass : Char → Bool} {text word rest : Text}
    (read : run (fun c => !inClass c) text = (word, rest)) :
    octetOffset? inClass text = if rest = [] then none else some (octets word) := by
  rcases run_eq_iff.1 read with ⟨rfl, all, maximal⟩
  have outside : ∀ c ∈ word, inClass c = false := by
    intro c member
    simpa using all c member
  rw [octetOffset?_append outside]
  cases rest with
  | nil => rfl
  | cons c rest =>
    have isIn : inClass c = true := by simpa using maximal c rfl
    simp [octetOffset?, isIn]

/-- The part of a text before the first character of a class, or all of it, is a run. -/
theorem cutAtOctet_octetOffset? (inClass : Char → Bool) (text : Text) :
    cutAtOctet ((octetOffset? inClass text).getD (octets text)) text =
      .ok (run (fun c => !inClass c) text) := by
  cases read : run (fun c => !inClass c) text with
  | mk word rest =>
    rcases eq_append_of_run read with ⟨rfl, -⟩
    rw [octetOffset?_of_run read]
    apply cutAtOctet_append
    split
    · next atEnd => rw [atEnd, List.append_nil, Option.getD_none]
    · rfl

end Folio.Text
