import Folio.Proofs.Encoding

/-!
# Reading entities and writing them again

Decoding undoes every way to write a text character by character, whatever the text itself looks
like: an entity is read where it was written, and nowhere else, because an ampersand of the text
never stands as it is.

Requoting decodes a text and quotes what it reads. That gives a normal form. A text is escaped if
it holds no character of markup and an ampersand only where one of the entities starts that quoting
writes. Of every text, well written or not, requoting gives an escaped text that reads as the same,
and it leaves an escaped text as it is.

Of two texts that are put together, each is requoted on its own unless an entity goes on over the
joint.
-/

namespace Folio.Entity

open Text

/-! ## Decoding undoes writing -/

/-- A text is read back from its characters, each written in some way, one after another. -/
theorem decode_flatten {text : Text} {parts : List Text} (writes : List.Forall₂ Writes text parts) :
    decode parts.flatten = text := by
  induction writes with
  | nil => rfl
  | cons first others inductionHypothesis =>
    rw [List.flatten_cons, first.decode_append, inductionHypothesis]

/-- Decoding gives back a text from every way to write it, so that all of them are requoted as the
quoted text, and a quoted text is requoted as it is. -/
theorem decode_undoes_writing :
    (∀ (text : Text) (parts : List Text), List.Forall₂ Writes text parts →
      decode parts.flatten = text ∧ requote parts.flatten = quote text) ∧
    ∀ text : Text, requote (quote text) = quote text := by
  refine ⟨?_, requote_quote⟩
  intro text parts writes
  have decoded : decode parts.flatten = text := decode_flatten writes
  exact ⟨decoded, by rw [requote, decoded]⟩

/-- A text that looks like an entity, with its first character written as a number, a tag that
starts with its own character, and a quotation mark under its name. -/
theorem decode_undoes_writing_of_entity_text :
    List.Forall₂ Writes "&lt;<\"".toList
        ["&#0038;".toList, ['l'], ['t'], [';'], ['<'], "&quot;".toList] ∧
      decode "&#0038;lt;<&quot;".toList = "&lt;<\"".toList ∧
      requote "&#0038;lt;<&quot;".toList = "&amp;lt;&lt;&quot;".toList := by
  have writes : List.Forall₂ Writes "&lt;<\"".toList
      ["&#0038;".toList, ['l'], ['t'], [';'], ['<'], "&quot;".toList] :=
    .cons (.entity (.decimal '&' 2)) <| .cons (.itself (by decide)) <|
      .cons (.itself (by decide)) <| .cons (.itself (by decide)) <|
      .cons (.itself (by decide)) <| .cons (.entity .quotation) .nil
  exact ⟨writes, decode_undoes_writing.1 _ _ writes⟩

theorem decode_quote (text : Text) : decode (quote text) = text :=
  (encodes_quote text).decode_eq

/-! ## Escaped texts -/

/-- The entities that quoting writes. -/
def quotedEntities : List Text :=
  ["&amp;", "&lt;", "&gt;", "&quot;", "&#39;"].map String.toList

/-- A text that can stand anywhere in a page: it holds no character of markup, and wherever it holds
an ampersand, one of the entities starts that quoting writes. -/
structure IsEscaped (text : Text) : Prop where
  noMarkup : ∀ c ∈ text, isMarkup c = false
  entities : ∀ after, '&' :: after <:+ text → ∃ entity ∈ quotedEntities, entity <+: '&' :: after

theorem IsEscaped.of_append {first second : Text} (escaped : IsEscaped (first ++ second)) :
    IsEscaped second where
  noMarkup c member := escaped.noMarkup c (List.mem_append_right first member)
  entities after isEnd := escaped.entities after (isEnd.trans (List.suffix_append first second))

/-- A character is quoted as it stands, or as one of the entities. -/
theorem quoteChar_cases (c : Char) :
    (quoteChar c = [c] ∧ c ≠ '&') ∨ quoteChar c ∈ quotedEntities := by
  unfold quoteChar
  split
  · exact .inr (by decide)
  · exact .inr (by decide)
  · exact .inr (by decide)
  · exact .inr (by decide)
  · exact .inr (by decide)
  · next noAmpersand _ _ _ _ => exact .inl ⟨rfl, noAmpersand⟩

/-- Each of the entities is the quoted form of a character. -/
theorem exists_quoteChar_of_mem {entity : Text} (isEntity : entity ∈ quotedEntities) :
    ∃ c, entity = quoteChar c := by
  have fromChars : quotedEntities = ['&', '<', '>', '"', '\''].map quoteChar := rfl
  rw [fromChars, List.mem_map] at isEntity
  obtain ⟨c, -, rfl⟩ := isEntity
  exact ⟨c, rfl⟩

/-- An entity holds one ampersand, which is its first character. -/
theorem exists_cons_of_mem_quotedEntities {entity : Text} (isEntity : entity ∈ quotedEntities) :
    ∃ name, entity = '&' :: name ∧ '&' ∉ name := by
  have all : ∀ entity ∈ quotedEntities, entity.head? = some '&' ∧ '&' ∉ entity.tail := by decide
  obtain ⟨isHead, once⟩ := all entity isEntity
  exact ⟨entity.tail, (List.cons_head?_tail isHead).symm, once⟩

/-- An end of a text that starts with a character is an end of what follows a part without it. -/
theorem suffix_of_suffix_append {c : Char} {first second after : Text} (absent : c ∉ first)
    (isEnd : c :: after <:+ first ++ second) : c :: after <:+ second := by
  induction first with
  | nil => exact isEnd
  | cons d first inductionHypothesis =>
    rw [List.mem_cons, not_or] at absent
    rcases List.suffix_cons_iff.1 isEnd with same | isEnd
    · exact absurd (List.cons.inj same).1 absent.1
    · exact inductionHypothesis absent.2 isEnd

/-- A quoted text is escaped. -/
theorem isEscaped_quote (text : Text) : IsEscaped (quote text) where
  noMarkup c member := by
    cases isMark : isMarkup c with
    | false => rfl
    | true => exact absurd member (not_mem_quote isMark text)
  entities after isEnd := by
    induction text with
    | nil => exact absurd (List.suffix_nil.1 isEnd) (List.cons_ne_nil _ _)
    | cons c text inductionHypothesis =>
      rw [quote_cons] at isEnd
      rcases quoteChar_cases c with ⟨same, noAmpersand⟩ | isEntity
      · apply inductionHypothesis
        apply suffix_of_suffix_append _ isEnd
        simpa [same] using noAmpersand.symm
      · obtain ⟨name, written, once⟩ := exists_cons_of_mem_quotedEntities isEntity
        rw [written, List.cons_append] at isEnd
        rcases List.suffix_cons_iff.1 isEnd with whole | later
        · refine ⟨quoteChar c, isEntity, ?_⟩
          rw [whole, written]
          exact List.prefix_append ('&' :: name) (quote text)
        · exact inductionHypothesis (suffix_of_suffix_append once later)

/-- An escaped text starts with the quoted form of a character, and the rest of it is escaped. -/
theorem IsEscaped.exists_eq_append {text : Text} (escaped : IsEscaped text) (nonempty : text ≠ []) :
    ∃ c rest, text = quoteChar c ++ rest ∧ IsEscaped rest := by
  cases text with
  | nil => exact absurd rfl nonempty
  | cons c text =>
    by_cases isAmpersand : c = '&'
    · subst isAmpersand
      obtain ⟨entity, isEntity, rest, split⟩ := escaped.entities text (List.suffix_refl _)
      obtain ⟨d, rfl⟩ := exists_quoteChar_of_mem isEntity
      rw [← split] at escaped
      exact ⟨d, rest, split.symm, escaped.of_append⟩
    · have same : quoteChar c = [c] :=
        quoteChar_of_plain isAmpersand (escaped.noMarkup c (List.mem_cons_self ..))
      exact ⟨c, text, by rw [same]; rfl, @IsEscaped.of_append [c] text escaped⟩

/-- An escaped text is the quoted form of some text. -/
theorem IsEscaped.exists_eq_quote {text : Text} (escaped : IsEscaped text) :
    ∃ plain, text = quote plain := by
  -- An entity is taken from the front as a whole, so the induction is on the length.
  induction length : text.length using Nat.strongRecOn generalizing text with
  | ind size inductionHypothesis =>
    by_cases empty : text = []
    · exact ⟨[], empty⟩
    · obtain ⟨c, rest, rfl, restEscaped⟩ := escaped.exists_eq_append empty
      have shorter : rest.length < size := by
        have := List.length_pos_iff.2 (quoteChar_ne_nil c)
        rw [List.length_append] at length
        omega
      obtain ⟨plain, rfl⟩ := inductionHypothesis rest.length shorter restEscaped rfl
      exact ⟨c :: plain, (quote_cons c plain).symm⟩

/-- The escaped texts are the texts that requoting leaves as they are. -/
theorem requote_eq_self_iff {text : Text} : requote text = text ↔ IsEscaped text := by
  constructor
  · intro same
    rw [← same]
    exact isEscaped_quote (decode text)
  · intro escaped
    obtain ⟨plain, rfl⟩ := escaped.exists_eq_quote
    exact requote_quote plain

/-- Requoting makes an escaped text of every text. The text that it makes reads as the same, and is
requoted as it is. -/
theorem requote_escapes (text : Text) :
    IsEscaped (requote text) ∧ decode (requote text) = decode text ∧
      requote (requote text) = requote text := by
  have escaped : IsEscaped (requote text) := isEscaped_quote (decode text)
  exact ⟨escaped, decode_quote (decode text), requote_eq_self_iff.2 escaped⟩

/-- A reference to no character and a reference that is not decimal are kept as text, and so is what
looks like an entity once the ampersand in front of it has been read. -/
example : requote "&#55296;&#x41;&#38;lt;&".toList =
    "&amp;#55296;&amp;#x41;&amp;lt;&amp;".toList := by
  decide +kernel

/-! ## Texts put together

Two texts can make an entity together that neither holds by itself. That takes an entity that goes
on over the joint: a character that can neither stand in an entity behind `&` nor end one keeps the
two apart. -/

theorem entity?_proper : Proper entity? := by
  intro text after c found
  unfold entity? at found
  split at found
  · next text =>
    split at found
    · next name rest ran =>
      obtain ⟨d, -, same⟩ := Option.map_eq_some_iff.1 found
      obtain ⟨rfl, rfl⟩ := Prod.mk.inj same
      obtain ⟨rfl, -⟩ := eq_append_of_run ran
      exact ⟨'&' :: (name ++ [';']), List.cons_ne_nil _ _, by simp⟩
    · cases found
  · cases found

/-- Whether an entity starts in a text does not depend on what follows, if that goes on with a
character that can neither stand in an entity nor end one. -/
theorem entity?_append_cons {e : Char} (outside : isNameChar e = false) (noEnd : e ≠ ';')
    (c : Char) (text rest : Text) :
    entity? (c :: text ++ e :: rest) =
      (entity? (c :: text)).map fun (value, after) => (value, after ++ e :: rest) := by
  by_cases isAmpersand : c = '&'
  · subst isAmpersand
    rcases all_or_first_outside isNameChar text with all | ⟨name, d, more, rfl, all, ends⟩
    · rw [List.cons_append, entity?, entity?, run_append_cons all outside, run_of_all all]
      simp [noEnd]
    · rw [List.cons_append, List.append_assoc, List.cons_append, entity?, entity?,
        run_append_cons all ends, run_append_cons all ends]
      by_cases isEnd : d = ';'
      · subst isEnd
        cases known : named? name with
        | none => simp [known]
        | some value => simp [known]
      · simp [isEnd]
  · rw [List.cons_append, entity?_cons_of_ne isAmpersand, entity?_cons_of_ne isAmpersand]
    rfl

theorem decode_append_cons {e : Char} (outside : isNameChar e = false) (noEnd : e ≠ ';')
    (text rest : Text) : decode (text ++ e :: rest) = decode text ++ decode (e :: rest) := by
  have pieces : pieces entity? (text ++ e :: rest) =
      pieces entity? text ++ pieces entity? (e :: rest) := by
    apply pieces_append_of_apart entity?_proper
    rintro before c tail rfl
    exact entity?_append_cons outside noEnd c tail rest
  rw [decode, substitute, pieces, List.flatMap_append]
  rfl

/-- Two texts are requoted apart if the second starts with a character that can neither stand in an
entity nor end one. -/
theorem requote_append_cons {e : Char} (outside : isNameChar e = false) (noEnd : e ≠ ';')
    (text rest : Text) : requote (text ++ e :: rest) = requote text ++ requote (e :: rest) := by
  rw [requote, decode_append_cons outside noEnd, quote_append]
  rfl

/-- A character that need not be written as an entity is requoted as it stands. -/
theorem requote_cons_of_plain {c : Char} (noAmpersand : c ≠ '&') (noMarkup : isMarkup c = false)
    (text : Text) : requote (c :: text) = c :: requote text := by
  rw [requote, decode_cons_of_ne noAmpersand, quote_cons, quoteChar_of_plain noAmpersand noMarkup]
  rfl

end Folio.Entity
