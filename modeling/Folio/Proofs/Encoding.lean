import Folio.Proofs.Entity
import Folio.Proofs.Text.Mark
import Folio.Proofs.Text.Run

/-!
# The ways to write a text inside a page

A page can show one text in many spellings: a character stands as it is, or under the name of its
entity, or under its number. Only `&` and `<` always have to be written as entities. Decoding gives
back the text of every spelling, so a spelling is requoted as the quoted text, and quoting, being
one of the spellings, is undone by decoding.
-/

namespace Folio.Entity

open Text

/-- One way to write a character inside a page. Whitespace always stands as it is; the number of a
character may have zeros in front. -/
inductive Spells : Char → Text → Prop
  | plain {c : Char} (noAmpersand : c ≠ '&') (noLess : c ≠ '<') : Spells c [c]
  | ampersand : Spells '&' "&amp;".toList
  | less : Spells '<' "&lt;".toList
  | greater : Spells '>' "&gt;".toList
  | quotation : Spells '"' "&quot;".toList
  | decimal {c : Char} (visible : Unicode.isBlank c = false) (zeros : Nat) :
      Spells c ("&#".toList ++ List.replicate zeros '0' ++ Text.ofNat c.toNat ++ [';'])

/-- One way to write a text inside a page, character by character. -/
inductive Encodes : Text → Text → Prop
  | nil : Encodes [] []
  | cons {c : Char} {text written encoded : Text} (spells : Spells c written)
      (encodes : Encodes text encoded) : Encodes (c :: text) (written ++ encoded)

/-! ## Entities -/

/-- The digits of a number, with zeros in front, write that number. -/
theorem number?_ofNat (zeros n : Nat) :
    number? (List.replicate zeros '0' ++ Text.ofNat n) = some n := by
  have nonempty : List.replicate zeros '0' ++ Text.ofNat n ≠ [] := by
    simp [Text.ofNat, Nat.toDigits_ne_nil]
  have digits : (List.replicate zeros '0' ++ Text.ofNat n).all Char.isDigit = true := by
    rw [List.all_append, Bool.and_eq_true, List.all_eq_true, List.all_eq_true]
    constructor
    · intro c member
      rw [(List.mem_replicate.1 member).2]
      rfl
    · intro c member
      exact Nat.isDigit_of_mem_toDigits (by decide) (by decide) member
  have value : (List.replicate zeros '0' ++ Text.ofNat n).foldl
      (fun n c => 10 * n + (c.toNat - '0'.toNat)) 0 = n := by
    rw [← Nat.ofDigitChars_eq_foldl, Nat.ofDigitChars_append, Nat.ofDigitChars_replicate_zero,
      Nat.mul_zero]
    exact Nat.ofDigitChars_ten_toDigits
  rw [number?, if_pos ⟨nonempty, digits⟩, value]

theorem charOfNat?_toNat (c : Char) : charOfNat? c.toNat = some c := by
  have valid : c.toNat.isValidChar := c.valid
  rw [charOfNat?, if_pos valid, Char.ofNat_toNat]

/-- An entity whose name stands for a character reads as that character. -/
theorem readsAs_entity {name : Text} {c : Char} (plainName : ∀ d ∈ name, isNameChar d = true)
    (known : named? name = some c) : ReadsAs entity? ('&' :: (name ++ [';'])) c := by
  refine ⟨by simp, ?_⟩
  intro rest
  have read : run isNameChar (name ++ ';' :: rest) = (name, ';' :: rest) :=
    run_append_cons plainName (by decide) rest
  have split : '&' :: (name ++ [';']) ++ rest = '&' :: (name ++ ';' :: rest) := by simp
  rw [split, entity?, read]
  simp [known]

theorem named?_decimal (c : Char) (zeros : Nat) :
    named? ('#' :: (List.replicate zeros '0' ++ Text.ofNat c.toNat)) = some c := by
  have number := number?_ofNat zeros c.toNat
  simp [named?, number, charOfNat?_toNat]

theorem isNameChar_of_isDigit {c : Char} (digit : c.isDigit = true) : isNameChar c = true := by
  simp [isNameChar, Char.isAlphanum, digit]

/-- The ways to write a character as an entity: four characters have an entity with a name, and
every character has its number, with any zeros in front. -/
inductive IsEntity : Char → Text → Prop
  | ampersand : IsEntity '&' "&amp;".toList
  | less : IsEntity '<' "&lt;".toList
  | greater : IsEntity '>' "&gt;".toList
  | quotation : IsEntity '"' "&quot;".toList
  | decimal (c : Char) (zeros : Nat) :
      IsEntity c ("&#".toList ++ List.replicate zeros '0' ++ Text.ofNat c.toNat ++ [';'])

/-- An entity is a name between `&` and `;`, and the name stands for the character. -/
theorem IsEntity.exists_name {c : Char} {written : Text} (isEntity : IsEntity c written) :
    ∃ name, written = '&' :: (name ++ [';']) ∧ (∀ d ∈ name, isNameChar d = true) ∧
      named? name = some c := by
  cases isEntity with
  | ampersand => exact ⟨"amp".toList, by simp, by decide, rfl⟩
  | less => exact ⟨"lt".toList, by simp, by decide, rfl⟩
  | greater => exact ⟨"gt".toList, by simp, by decide, rfl⟩
  | quotation => exact ⟨"quot".toList, by simp, by decide, rfl⟩
  | decimal c zeros =>
    refine ⟨_, by simp, ?_, named?_decimal c zeros⟩
    intro d member
    rcases List.mem_cons.1 member with rfl | member
    · rfl
    rcases List.mem_append.1 member with zero | digit
    · rw [(List.mem_replicate.1 zero).2]
      rfl
    · exact isNameChar_of_isDigit (Nat.isDigit_of_mem_toDigits (by decide) (by decide) digit)

theorem IsEntity.decode_append {c : Char} {written : Text} (isEntity : IsEntity c written)
    (rest : Text) : decode (written ++ rest) = c :: decode rest := by
  obtain ⟨name, rfl, plainName, known⟩ := isEntity.exists_name
  rw [decode, substitute, pieces_append_of_readsAs (readsAs_entity plainName known)]
  rfl

/-- The ways to write a character so that it can be read back: as an entity, or, if it is not `&`,
as it stands. -/
inductive Writes : Char → Text → Prop
  | itself {c : Char} (noAmpersand : c ≠ '&') : Writes c [c]
  | entity {c : Char} {written : Text} (isEntity : IsEntity c written) : Writes c written

theorem entity?_cons_of_ne {c : Char} (noAmpersand : c ≠ '&') (text : Text) :
    entity? (c :: text) = none := by
  unfold entity?
  split
  · next same => exact absurd (List.cons.inj same).1 noAmpersand
  · rfl

theorem decode_cons_of_ne {c : Char} (noAmpersand : c ≠ '&') (text : Text) :
    decode (c :: text) = c :: decode text := by
  rw [decode, substitute, pieces_cons_of_none (entity?_cons_of_ne noAmpersand text)]
  rfl

theorem Writes.decode_append {c : Char} {written : Text} (writes : Writes c written)
    (rest : Text) : decode (written ++ rest) = c :: decode rest := by
  cases writes with
  | itself noAmpersand => exact decode_cons_of_ne noAmpersand rest
  | entity isEntity => exact isEntity.decode_append rest

/-- In a spelling a character stands as it is, or as an entity. -/
theorem Spells.eq_or_isEntity {c : Char} {written : Text} (spells : Spells c written) :
    (written = [c] ∧ c ≠ '&' ∧ c ≠ '<') ∨ IsEntity c written := by
  cases spells with
  | plain noAmpersand noLess => exact .inl ⟨rfl, noAmpersand, noLess⟩
  | ampersand => exact .inr .ampersand
  | less => exact .inr .less
  | greater => exact .inr .greater
  | quotation => exact .inr .quotation
  | decimal _ zeros => exact .inr (.decimal c zeros)

theorem Spells.writes {c : Char} {written : Text} (spells : Spells c written) :
    Writes c written := by
  rcases spells.eq_or_isEntity with ⟨rfl, noAmpersand, -⟩ | isEntity
  · exact .itself noAmpersand
  · exact .entity isEntity

/-- Decoding gives back the text of every spelling. -/
theorem Encodes.decode_eq {text encoded : Text} (encodes : Encodes text encoded) :
    decode encoded = text := by
  induction encodes with
  | nil => rfl
  | cons spells encodes inductionHypothesis => rw [spells.writes.decode_append, inductionHypothesis]

/-- All spellings of a text are requoted as the quoted text. -/
theorem Encodes.requote_eq {text encoded : Text} (encodes : Encodes text encoded) :
    requote encoded = quote text := by
  rw [requote, encodes.decode_eq]

/-! ## Quoting as a spelling -/

theorem spells_quoteChar (c : Char) : Spells c (quoteChar c) := by
  unfold quoteChar
  split
  · exact .ampersand
  · exact .less
  · exact .greater
  · exact .quotation
  · exact .decimal (by decide) 0
  · next noAmpersand noLess _ _ _ => exact .plain noAmpersand noLess

theorem encodes_quote (text : Text) : Encodes text (quote text) := by
  induction text with
  | nil => exact .nil
  | cons c text inductionHypothesis => exact .cons (spells_quoteChar c) inductionHypothesis

/-- A quoted text is requoted as it is. -/
@[simp]
theorem requote_quote (text : Text) : requote (quote text) = quote text :=
  (encodes_quote text).requote_eq

/-- A text without a character that has to be written as an entity is requoted as it is. -/
theorem requote_of_plain {text : Text} (plain : ∀ c ∈ text, c ≠ '&' ∧ isMarkup c = false) :
    requote text = text := by
  have quoted : quote text = text := by
    induction text with
    | nil => rfl
    | cons c text inductionHypothesis =>
      obtain ⟨⟨noAmpersand, noMarkup⟩, plain⟩ := List.forall_mem_cons.1 plain
      rw [quote_cons, quoteChar_of_plain noAmpersand noMarkup, inductionHypothesis plain]
      rfl
  rw [← quoted, requote_quote]

/-! ## The characters of a spelling -/

/-- What a character is written with is the character itself, or belongs to an entity. -/
theorem Spells.mem {c d : Char} {written : Text} (spells : Spells c written)
    (member : d ∈ written) :
    (d = c ∧ c ≠ '<') ∨ d = '&' ∨ d = ';' ∨ isNameChar d = true := by
  rcases spells.eq_or_isEntity with ⟨rfl, -, noLess⟩ | isEntity
  · exact .inl ⟨List.mem_singleton.1 member, noLess⟩
  · obtain ⟨name, rfl, plainName, -⟩ := isEntity.exists_name
    rcases List.mem_cons.1 member with isLead | member
    · exact .inr (.inl isLead)
    rcases List.mem_append.1 member with inName | isEnd
    · exact .inr (.inr (.inr (plainName d inName)))
    · exact .inr (.inr (.inl (List.mem_singleton.1 isEnd)))

theorem Encodes.mem {text encoded : Text} {d : Char} (encodes : Encodes text encoded)
    (member : d ∈ encoded) :
    (d ∈ text ∧ d ≠ '<') ∨ d = '&' ∨ d = ';' ∨ isNameChar d = true := by
  induction encodes with
  | nil => simp at member
  | cons spells encodes inductionHypothesis =>
    rcases List.mem_append.1 member with first | later
    · refine (spells.mem first).imp_left ?_
      rintro ⟨rfl, noLess⟩
      exact ⟨List.mem_cons_self .., noLess⟩
    · refine (inductionHypothesis later).imp_left ?_
      exact fun inText => ⟨List.mem_cons_of_mem _ inText.1, inText.2⟩

/-- No tag starts in a spelling. -/
theorem Encodes.noLess {text encoded : Text} (encodes : Encodes text encoded) :
    '<' ∉ encoded := by
  intro member
  rcases encodes.mem member with ⟨-, noLess⟩ | isLead | isEnd | inName
  · exact noLess rfl
  · exact absurd isLead (by decide)
  · exact absurd isEnd (by decide)
  · exact absurd inName (by decide)

/-- A spelling of a text on one line stands on one line. -/
theorem Encodes.oneLine {text encoded : Text} (encodes : Encodes text encoded)
    (oneLine : '\n' ∉ text) : '\n' ∉ encoded := by
  intro member
  rcases encodes.mem member with ⟨inText, -⟩ | isLead | isEnd | inName
  · exact oneLine inText
  · exact absurd isLead (by decide)
  · exact absurd isEnd (by decide)
  · exact absurd inName (by decide)

/-- A spelling starts as its text does, or with an entity. -/
theorem Encodes.head? {text encoded : Text} {d : Char} (encodes : Encodes text encoded)
    (head : encoded.head? = some d) : text.head? = some d ∨ d = '&' := by
  cases encodes with
  | nil => simp at head
  | cons spells encodes =>
    rcases spells.eq_or_isEntity with ⟨rfl, -⟩ | isEntity
    · exact .inl head
    · obtain ⟨name, rfl, -⟩ := isEntity.exists_name
      exact .inr (Option.some.inj head).symm

theorem Encodes.ne_nil {text encoded : Text} (encodes : Encodes text encoded)
    (nonempty : text ≠ []) : encoded ≠ [] := by
  rintro rfl
  exact nonempty encodes.decode_eq.symm

end Folio.Entity
