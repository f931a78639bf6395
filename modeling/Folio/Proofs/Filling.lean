import Folio.Proofs.PageValue

/-!
# Filled templates

A template is filled from left to right. Where a name of word characters stands between two `@`,
what is shown for the name is written and reading goes on after the second `@`; anywhere else one
character is kept. These rules decide what is written, and filling a template follows them. A
search that replaces the first placeholder and goes on behind it comes to the same.

An `@` both opens and closes a placeholder, so what a text in a template comes to can depend on
what stands before it. It does not behind a character that is neither an `@` nor a word character:
there a template can be cut, and its parts are filled apart.
-/

namespace Folio.Placeholder

open Text

/-- A placeholder is a name of word characters between two `@`. -/
theorem placeholder?_eq_some_iff {text name rest : Text} :
    placeholder? text = some (name, rest) ↔
      name ≠ [] ∧ (∀ c ∈ name, Unicode.isWordChar c = true) ∧
        text = '@' :: (name ++ '@' :: rest) := by
  constructor
  · intro found
    unfold placeholder? at found
    split at found
    · next text =>
      split at found
      · cases found
      · next word after nonempty ran =>
        obtain ⟨rfl, rfl⟩ := Prod.mk.inj (Option.some.inj found)
        obtain ⟨rfl, all⟩ := eq_append_of_run ran
        exact ⟨nonempty, all, rfl⟩
      · cases found
    · cases found
  · rintro ⟨nonempty, word, rfl⟩
    have read := (readsAs_placeholder nonempty word).2 rest
    rwa [List.cons_append, List.append_assoc] at read

theorem placeholder?_cons_of_ne {c : Char} (notSign : c ≠ '@') (text : Text) :
    placeholder? (c :: text) = none := by
  unfold placeholder?
  split
  · next same => exact absurd (List.cons.inj same).1 notSign
  · rfl

theorem placeholder?_proper : Proper placeholder? := by
  intro text after name found
  obtain ⟨-, -, split⟩ := placeholder?_eq_some_iff.1 found
  exact ⟨'@' :: (name ++ ['@']), by simp, by simp [split]⟩

theorem pieces_placeholder_append {name : Text} (nonempty : name ≠ [])
    (word : ∀ c ∈ name, Unicode.isWordChar c = true) (rest : Text) :
    pieces placeholder? ('@' :: (name ++ '@' :: rest)) =
      .item name :: pieces placeholder? rest := by
  have read := pieces_append_of_readsAs (readsAs_placeholder nonempty word) rest
  rwa [List.cons_append, List.append_assoc, List.singleton_append] at read

/-- A template is filled: what is shown for its placeholders is written in their places. -/
inductive Filled (shown : Text → Text) : (template written : Text) → Prop
  | nil : Filled shown [] []
  | placeholder {name rest written : Text} (nonempty : name ≠ [])
      (word : ∀ c ∈ name, Unicode.isWordChar c = true) (filled : Filled shown rest written) :
      Filled shown ('@' :: (name ++ '@' :: rest)) (shown name ++ written)
  | plain {c : Char} {rest written : Text}
      (noPlaceholder : ∀ name after, name ≠ [] → (∀ d ∈ name, Unicode.isWordChar d = true) →
        c :: rest ≠ '@' :: (name ++ '@' :: after))
      (filled : Filled shown rest written) : Filled shown (c :: rest) (c :: written)

/-- Replacing the placeholders of a template is the one way to fill it. -/
theorem filled_iff {shown : Text → Text} {template written : Text} :
    Filled shown template written ↔ written = substitute placeholder? shown template := by
  constructor
  · intro filled
    induction filled with
    | nil => rfl
    | @placeholder name rest written nonempty word filled inductionHypothesis =>
      rw [substitute, pieces_placeholder_append nonempty word, List.flatMap_cons,
        inductionHypothesis]
      rfl
    | @plain c rest written noPlaceholder filled inductionHypothesis =>
      have missed : placeholder? (c :: rest) = none := by
        rw [Option.eq_none_iff_forall_ne_some]
        rintro ⟨name, after⟩ found
        obtain ⟨nonempty, word, split⟩ := placeholder?_eq_some_iff.1 found
        exact noPlaceholder name after nonempty word split
      rw [substitute, pieces_cons_of_none missed, List.flatMap_cons, inductionHypothesis]
      rfl
  · rintro rfl
    induction template using scan_induction placeholder?_proper with
    | nil => exact .nil
    | plain c rest missed inductionHypothesis =>
      rw [substitute, pieces_cons_of_none missed, List.flatMap_cons]
      refine .plain ?_ inductionHypothesis
      intro name after nonempty word split
      rw [placeholder?_eq_some_iff.2 ⟨nonempty, word, split⟩] at missed
      cases missed
    | item taken rest name taking found inductionHypothesis =>
      obtain ⟨nonempty, word, split⟩ := placeholder?_eq_some_iff.1 found
      rw [substitute, pieces_append_of_some taking found, List.flatMap_cons, split]
      exact .placeholder nonempty word inductionHypothesis

/-- A template is filled by a search: what is shown for its first placeholder is written in its
place, and the search goes on behind it. -/
inductive Searched (shown : Text → Text) : (template written : Text) → Prop
  | none {template : Text}
      (absent : ∀ before name rest, name ≠ [] → (∀ c ∈ name, Unicode.isWordChar c = true) →
        template ≠ before ++ '@' :: (name ++ '@' :: rest)) :
      Searched shown template template
  | first {before name rest written : Text} (nonempty : name ≠ [])
      (word : ∀ c ∈ name, Unicode.isWordChar c = true)
      (earliest : ∀ front other back, other ≠ [] → (∀ c ∈ other, Unicode.isWordChar c = true) →
        before ++ '@' :: (name ++ '@' :: rest) = front ++ '@' :: (other ++ '@' :: back) →
          before.length ≤ front.length)
      (searched : Searched shown rest written) :
      Searched shown (before ++ '@' :: (name ++ '@' :: rest)) (before ++ (shown name ++ written))

/-- A template without placeholders, said in two ways. -/
theorem itemFree_placeholder?_iff {template : Text} :
    ItemFree placeholder? template ↔
      ∀ before name rest, name ≠ [] → (∀ c ∈ name, Unicode.isWordChar c = true) →
        template ≠ before ++ '@' :: (name ++ '@' :: rest) := by
  rw [itemFree_iff]
  constructor
  · intro missed before name rest nonempty word split
    have found : placeholder? ('@' :: (name ++ '@' :: rest)) = some (name, rest) :=
      placeholder?_eq_some_iff.2 ⟨nonempty, word, rfl⟩
    rw [missed before _ split (List.cons_ne_nil _ _)] at found
    cases found
  · intro absent before text split _
    rw [Option.eq_none_iff_forall_ne_some]
    rintro ⟨name, rest⟩ found
    obtain ⟨nonempty, word, rfl⟩ := placeholder?_eq_some_iff.1 found
    exact absent before name rest nonempty word split

/-- Replacing the placeholders of a template is what a search for them comes to. -/
theorem searched_iff {shown : Text → Text} {template written : Text} :
    Searched shown template written ↔ written = substitute placeholder? shown template := by
  constructor
  · intro searched
    induction searched with
    | none absent => rw [substitute_of_itemFree (itemFree_placeholder?_iff.2 absent)]
    | @first before name rest written nonempty word earliest searched inductionHypothesis =>
      have missed : ∀ front c tail, before = front ++ c :: tail →
          placeholder? (c :: tail ++ '@' :: (name ++ '@' :: rest)) = Option.none := by
        rintro front c tail rfl
        rw [Option.eq_none_iff_forall_ne_some]
        rintro ⟨other, back⟩ found
        obtain ⟨otherNonempty, otherWord, split⟩ := placeholder?_eq_some_iff.1 found
        have early := earliest front other back otherNonempty otherWord (by simp [← split])
        simp only [List.length_append, List.length_cons] at early
        omega
      rw [substitute, pieces_append_of_missed missed, pieces_placeholder_append nonempty word,
        List.flatMap_append, Piece.flatMap_expand_map_plain, List.flatMap_cons,
        inductionHypothesis]
      rfl
  · rintro rfl
    -- The search goes on behind a placeholder, so the induction is on the length.
    induction length : template.length using Nat.strongRecOn generalizing template with
    | ind size inductionHypothesis =>
      rcases itemFree_or_first_item placeholder?_proper template with
        free | ⟨before, taken, rest, name, rfl, taking, found, earlier⟩
      · rw [substitute_of_itemFree free]
        exact .none (itemFree_placeholder?_iff.1 free)
      · obtain ⟨nonempty, word, split⟩ := placeholder?_eq_some_iff.1 found
        have shorter : rest.length < size := by
          have := List.length_pos_iff.2 taking
          simp only [List.length_append] at length
          omega
        have later := inductionHypothesis rest.length shorter rfl
        rw [substitute, pieces_append_of_missed earlier, pieces_append_of_some taking found,
          List.flatMap_append, Piece.flatMap_expand_map_plain, List.flatMap_cons,
          Piece.expand_item]
        rw [split] at earlier ⊢
        refine .first nonempty word ?_ later
        intro front other back otherNonempty otherWord same
        rcases List.append_eq_append_iff.1 same with ⟨tail, rfl, -⟩ | ⟨tail, rfl, behind⟩
        · simp
        · cases tail with
          | nil => simp
          | cons c tail =>
            have missed := earlier front c tail rfl
            rw [← behind, placeholder?_eq_some_iff.2 ⟨otherNonempty, otherWord, rfl⟩] at missed
            cases missed

/-! ## Templates put together -/

/-- Whether a placeholder starts in a text does not depend on what follows, if the text ends with a
character that can neither stand in a placeholder nor end one. -/
theorem placeholder?_append {c : Char} {tail : Text}
    (apart : ∀ d, (c :: tail).getLast? = some d → d ≠ '@' ∧ Unicode.isWordChar d = false)
    (rest : Text) :
    placeholder? (c :: tail ++ rest) =
      (placeholder? (c :: tail)).map fun (name, after) => (name, after ++ rest) := by
  by_cases isSign : c = '@'
  · subst isSign
    rcases all_or_first_outside Unicode.isWordChar tail with
      all | ⟨word, d, more, rfl, all, outside⟩
    · obtain ⟨notSign, outside⟩ := apart _ (List.getLast?_eq_some_getLast (List.cons_ne_nil _ _))
      rcases List.mem_cons.1 (List.getLast_mem (List.cons_ne_nil '@' tail)) with isSign | member
      · exact absurd isSign notSign
      · rw [all _ member] at outside
        cases outside
    · rw [List.cons_append, List.append_assoc, List.cons_append, placeholder?, placeholder?,
        run_append_cons all outside, run_append_cons all outside]
      cases word with
      | nil => rfl
      | cons e word =>
        by_cases closes : d = '@'
        · subst closes
          rfl
        · simp [closes]
  · rw [List.cons_append, placeholder?_cons_of_ne isSign, placeholder?_cons_of_ne isSign]
    rfl

/-- A template that ends with a character that can neither stand in a placeholder nor end one is
filled apart from what follows it. -/
theorem fill_append {first : Text}
    (apart : ∀ c, first.getLast? = some c → c ≠ '@' ∧ Unicode.isWordChar c = false)
    (values : Dictionary) (markup : List Text) (second : Text) :
    fill values markup (first ++ second) =
      fill values markup first ++ fill values markup second := by
  have pieces : pieces placeholder? (first ++ second) =
      pieces placeholder? first ++ pieces placeholder? second := by
    apply pieces_append_of_apart placeholder?_proper
    rintro before c tail rfl
    apply placeholder?_append
    simpa using apart
  rw [fill, substitute, pieces, List.flatMap_append]
  rfl

/-! ## The values of names -/

/-- What is shown for a name: its value, requoted unless the name is listed, and nothing for a name
without a value. -/
def shown (values : Dictionary) (markup : List Text) (name : Text) : Text :=
  match values.find? name with
  | none => []
  | some text => if name ∈ markup then text else Entity.requote text

theorem value_eq_shown (values : Dictionary) (markup : List Text) :
    value values markup = shown values markup := by
  funext name
  unfold value shown
  cases values.find? name with
  | none => simp
  | some text => simp

theorem fill_eq_substitute (values : Dictionary) (markup : List Text) (template : Text) :
    fill values markup template = substitute placeholder? (shown values markup) template := by
  rw [fill, value_eq_shown]

/-- The plain characters and the placeholders of a template are the whole template. -/
theorem expand_pieces_placeholder? (template : Text) :
    (pieces placeholder? template).flatMap (Piece.expand fun name => '@' :: (name ++ ['@'])) =
      template := by
  apply expand_pieces_of_source placeholder?_proper
  intro taken rest name found
  obtain ⟨-, -, split⟩ := placeholder?_eq_some_iff.1 found
  apply (List.append_left_inj rest).1
  simpa using split

/-- Filling a template comes to the same by a search for its placeholders and by the rules that
read it from left to right. A template is filled in parts that are cut after any character that can
neither stand in a placeholder nor end one. Where the placeholders of a template are is settled
before any value is known, so values are written as they are and are never read. -/
theorem fill_from_left_to_right :
    (∀ (values : Dictionary) (markup : List Text) (template written : Text),
      (Searched (shown values markup) template written ↔ written = fill values markup template) ∧
        (Filled (shown values markup) template written ↔
          written = fill values markup template)) ∧
    (∀ (values : Dictionary) (markup : List Text) (first second : Text),
      (∀ c, first.getLast? = some c → c ≠ '@' ∧ Unicode.isWordChar c = false) →
        fill values markup (first ++ second) =
          fill values markup first ++ fill values markup second) ∧
    ∀ template : Text, ∃ pieces : List (Piece Text),
      pieces.flatMap (Piece.expand fun name => '@' :: (name ++ ['@'])) = template ∧
        ∀ (values : Dictionary) (markup : List Text),
          fill values markup template = pieces.flatMap (Piece.expand (shown values markup)) := by
  refine ⟨?_, ?_, ?_⟩
  · intro values markup template written
    rw [fill_eq_substitute]
    exact ⟨searched_iff, filled_iff⟩
  · intro values markup first second apart
    exact fill_append apart values markup second
  · intro template
    refine ⟨pieces placeholder? template, expand_pieces_placeholder? template, ?_⟩
    intro values markup
    rw [fill_eq_substitute, substitute]

/-- The first part ends with a blank, so the second part is filled on its own. In its row of signs
one `@` is kept, then `a` is replaced; the sign behind `b` opens no placeholder, and the value of
`a` is not read as one. -/
theorem fill_from_left_to_right_of_signs_in_a_row :
    let values := Dictionary.ofList [("a".toList, "@b@".toList), ("b".toList, "x & y".toList)]
    let first := "mail me@example.com @ home ".toList
    let second := "@@a@b@@c@@b@".toList
    (∀ c, first.getLast? = some c → c ≠ '@' ∧ Unicode.isWordChar c = false) ∧
      Placeholder.fill values ["a".toList] (first ++ second) =
        "mail me@example.com @ home @@b@b@x &amp; y".toList := by
  intro values first second
  have apart : ∀ c, first.getLast? = some c → c ≠ '@' ∧ Unicode.isWordChar c = false := by
    rintro c last
    have isBlank : c = ' ' := Option.some.inj (last.symm.trans (by decide))
    subst isBlank
    decide
  have cut := fill_from_left_to_right.2.1 values ["a".toList] first second apart
  exact ⟨apart, cut.trans (by decide +kernel)⟩

end Folio.Placeholder
