import Folio.Proofs.Text.Scan
import Mathlib.Data.List.Basic

/-!
# Cutting and replacing at a mark

The first occurrence of a mark in a text that was put together from parts lies in one part, or it
lies across the place where two parts meet. The lemmas of this module rule out the second: no mark
lies across a place after which a character stands that the mark does not hold at that point.

A mark that starts with a character it holds nowhere else cannot overlap itself; for any other
mark, "the first occurrence" has to be said with the start of the mark included.
-/

namespace Folio.Text

variable {α : Type}

/-! ## The lead of a text put together -/

/-- A lead is never continued by a text that starts with a character the lead does not hold. -/
theorem dropLead?_append_cons {lead : Text} {c : Char} (absent : c ∉ lead) (text rest : Text) :
    dropLead? lead (text ++ c :: rest) = (dropLead? lead text).map (· ++ c :: rest) := by
  induction lead generalizing text with
  | nil => simp
  | cons d lead inductionHypothesis =>
    simp only [List.mem_cons, not_or] at absent
    cases text with
    | nil => simp [Ne.symm absent.1]
    | cons e text =>
      by_cases same : d = e
      · simp [same, inductionHypothesis absent.2]
      · simp [same]

/-- A lead that starts with a character it holds nowhere else does not reach from a text into what
follows, if that starts with the character. -/
theorem dropLead?_cons_append_cons {c : Char} {lead : Text} (once : c ∉ lead) (d : Char)
    (text rest : Text) :
    dropLead? (c :: lead) (d :: (text ++ c :: rest)) =
      (dropLead? (c :: lead) (d :: text)).map (· ++ c :: rest) := by
  by_cases same : c = d
  · simp [same, dropLead?_append_cons (same ▸ once)]
  · simp [same]

/-- A lead is never continued by a text without the last character of the lead. -/
theorem dropLead?_append_of_last {lead rest : Text}
    (absent : ∀ last, lead.getLast? = some last → last ∉ rest) (text : Text) :
    dropLead? lead (text ++ rest) = (dropLead? lead text).map (· ++ rest) := by
  induction text generalizing lead with
  | nil =>
    cases lead with
    | nil => simp
    | cons c lead =>
      rw [List.nil_append, dropLead?_cons_nil, Option.map_none,
        Option.eq_none_iff_forall_ne_some]
      intro after found
      have split := dropLead?_eq_some_iff.1 found
      apply absent _ (List.getLast?_eq_some_getLast (List.cons_ne_nil c lead))
      rw [split]
      exact List.mem_append_left _ (List.getLast_mem _)
  | cons d text inductionHypothesis =>
    cases lead with
    | nil => simp
    | cons c lead =>
      by_cases same : c = d
      · subst same
        simp only [List.cons_append, dropLead?_cons_cons, if_true]
        apply inductionHypothesis
        intro last ends
        apply absent last
        cases lead with
        | nil => simp at ends
        | cons e lead => simpa [List.getLast?_cons_cons] using ends
      · simp [same]

/-! ## Occurrences -/

theorem cutAt?_cons (mark : Text) (c : Char) (text : Text) :
    cutAt? mark (c :: text) =
      match dropLead? mark (c :: text) with
      | some after => some ([], after)
      | none => (cutAt? mark text).map fun (before, after) => (c :: before, after) :=
  rfl

theorem hasPart_eq_false_iff {mark text : Text} :
    hasPart mark text = false ↔ cutAt? mark text = none := by
  simp [hasPart]

theorem dropLead?_of_absent {mark : Text} {c : Char} {text : Text}
    (absent : hasPart mark (c :: text) = false) : dropLead? mark (c :: text) = none := by
  rw [hasPart_eq_false_iff, cutAt?_cons] at absent
  split at absent
  · simp at absent
  · assumption

/-- A mark occurs in a text if the text is the mark with something before and after it. -/
theorem hasPart_append (mark before after : Text) :
    hasPart mark (before ++ mark ++ after) = true := by
  induction before with
  | nil =>
    have found : dropLead? mark (mark ++ after) = some after := dropLead?_eq_some_iff.2 rfl
    cases text : mark ++ after with
    | nil => rw [List.nil_append, text, hasPart, cutAt?, ← text, found]; rfl
    | cons c rest => rw [List.nil_append, text, hasPart, cutAt?, ← text, found]; rfl
  | cons c before inductionHypothesis =>
    simp only [hasPart, List.cons_append, cutAt?]
    split
    · rfl
    · simpa [hasPart] using inductionHypothesis

theorem hasPart_iff {mark text : Text} :
    hasPart mark text = true ↔ ∃ before after, text = before ++ mark ++ after := by
  constructor
  · intro occurs
    obtain ⟨⟨before, after⟩, cut⟩ := Option.isSome_iff_exists.1 occurs
    exact ⟨before, after, eq_of_cutAt? cut⟩
  · rintro ⟨before, after, rfl⟩
    exact hasPart_append mark before after

/-- A mark does not occur in a text without one of its characters. -/
theorem hasPart_eq_false_of_not_mem {mark text : Text} {c : Char} (inMark : c ∈ mark)
    (absent : c ∉ text) : hasPart mark text = false := by
  rw [← Bool.not_eq_true, hasPart_iff]
  rintro ⟨before, after, rfl⟩
  apply absent
  exact List.mem_append_left after (List.mem_append_right before inMark)

/-- A mark that is absent from a text is absent from every part of it. -/
theorem hasPart_of_append {mark first second : Text}
    (absent : hasPart mark (first ++ second) = false) :
    hasPart mark first = false ∧ hasPart mark second = false := by
  rw [← Bool.not_eq_true, hasPart_iff] at absent
  constructor
  · rw [← Bool.not_eq_true, hasPart_iff]
    rintro ⟨before, after, rfl⟩
    exact absent ⟨before, after ++ second, by simp⟩
  · rw [← Bool.not_eq_true, hasPart_iff]
    rintro ⟨before, after, rfl⟩
    exact absent ⟨first ++ before, after, by simp⟩

/-- A recogniser whose items hold a mark finds none in a text without the mark. -/
theorem itemFree_of_absent {β : Type} {recognise : Text → Option β} {mark : Text}
    (holds : ∀ {text value}, recognise text = some value → hasPart mark text = true)
    {text : Text} (absent : hasPart mark text = false) : ItemFree recognise text := by
  induction text with
  | nil => trivial
  | cons c text inductionHypothesis =>
    have later : hasPart mark text = false := (@hasPart_of_append mark [c] text absent).2
    refine itemFree_cons.2 ⟨?_, inductionHypothesis later⟩
    rw [Option.eq_none_iff_forall_ne_some]
    intro value found
    rw [holds found] at absent
    exact Bool.false_ne_true absent.symm

/-- A mark starts at the start of a text with something after it if one of the two is the start of
the other. -/
theorem dropLead?_append_eq_none_iff {mark text : Text} :
    (∀ rest, dropLead? mark (text ++ rest) = none) ↔ ¬ mark <+: text ∧ ¬ text <+: mark := by
  constructor
  · intro missed
    constructor
    · rintro ⟨tail, rfl⟩
      have found : dropLead? mark (mark ++ tail ++ []) = some tail :=
        dropLead?_eq_some_iff.2 (by simp)
      rw [missed] at found
      simp at found
    · rintro ⟨tail, rfl⟩
      have found : dropLead? (text ++ tail) (text ++ tail) = some [] :=
        dropLead?_eq_some_iff.2 (by simp)
      rw [missed] at found
      simp at found
  · rintro ⟨notWhole, notStart⟩ rest
    rw [Option.eq_none_iff_forall_ne_some]
    intro after found
    have isLead : mark <+: text ++ rest := ⟨after, (dropLead?_eq_some_iff.1 found).symm⟩
    rcases List.prefix_or_prefix_of_prefix isLead ⟨rest, rfl⟩ with whole | start
    · exact notWhole whole
    · exact notStart start

/-- A text is inert for a mark if the mark does not occur in it and it does not end with the
beginning of the mark. -/
instance decidableInert (mark : Text) : ∀ text, Decidable (Inert (dropLead? mark) text)
  | [] => isTrue trivial
  | c :: text =>
    have := decidableInert mark text
    decidable_of_iff'
      ((¬ mark <+: c :: text ∧ ¬ c :: text <+: mark) ∧ Inert (dropLead? mark) text)
      (and_congr_left' (@dropLead?_append_eq_none_iff mark (c :: text)))

/-- A text without the first character of a mark is inert for the mark. -/
theorem inert_of_not_mem {c : Char} {mark text : Text} (absent : c ∉ text) :
    Inert (dropLead? (c :: mark)) text := by
  induction text with
  | nil => trivial
  | cons d text inductionHypothesis =>
    simp only [List.mem_cons, not_or] at absent
    exact inert_cons.2 ⟨fun rest => by simp [absent.1], inductionHypothesis absent.2⟩

/-- A text that is inert for a mark is inert for a recogniser whose items start with the mark. -/
theorem Inert.of_lead {β : Type} {recognise : Text → Option β} {mark text : Text}
    (starts : ∀ {text value}, recognise text = some value → ∃ rest, text = mark ++ rest)
    (inert : Inert (dropLead? mark) text) : Inert recognise text := by
  induction text with
  | nil => trivial
  | cons c text inductionHypothesis =>
    obtain ⟨missed, inert⟩ := inert_cons.1 inert
    refine inert_cons.2 ⟨?_, inductionHypothesis inert⟩
    intro rest
    rw [Option.eq_none_iff_forall_ne_some]
    intro value found
    obtain ⟨after, split⟩ := starts found
    have lead : dropLead? mark (c :: (text ++ rest)) = some after := dropLead?_eq_some_iff.2 split
    rw [missed] at lead
    simp at lead

/-- A mark in a text with an inert text before it lies in the text itself. -/
theorem hasPart_append_of_inert {mark text : Text} (inert : Inert (dropLead? mark) text)
    (rest : Text) : hasPart mark (text ++ rest) = hasPart mark rest := by
  rw [hasPart, cutAt?_append_of_inert inert, Option.isSome_map, hasPart]

/-- An inert text holds no mark. -/
theorem Inert.hasPart {mark text : Text} (inert : Inert (dropLead? mark) text)
    (nonempty : mark ≠ []) : hasPart mark text = false := by
  rw [hasPart_eq_false_iff]
  have cut := cutAt?_append_of_inert inert []
  rw [List.append_nil] at cut
  rw [cut]
  cases mark with
  | nil => exact absurd rfl nonempty
  | cons c mark => rfl

/-! ## The first occurrence -/

theorem cutAt?_mark_append {mark : Text} (nonempty : mark ≠ []) (after : Text) :
    cutAt? mark (mark ++ after) = some ([], after) := by
  cases mark with
  | nil => exact absurd rfl nonempty
  | cons c mark =>
    have found : dropLead? (c :: mark) (c :: (mark ++ after)) = some after :=
      dropLead?_eq_some_iff.2 rfl
    rw [List.cons_append, cutAt?, found]

/-- A text is cut at a mark if the mark occurs nowhere in what stands before the end of it. -/
theorem cutAt?_of_first {mark before : Text} (nonempty : mark ≠ [])
    (first : hasPart mark (before ++ mark.dropLast) = false) (after : Text) :
    cutAt? mark (before ++ mark ++ after) = some (before, after) := by
  induction before with
  | nil => exact cutAt?_mark_append nonempty after
  | cons c before inductionHypothesis =>
    have missed : dropLead? mark (c :: (before ++ mark ++ after)) = none := by
      rw [Option.eq_none_iff_forall_ne_some]
      intro rest found
      have split := dropLead?_eq_some_iff.1 found
      -- The occurrence is too short to reach the end of the mark that follows `before`.
      have early : mark <+: c :: before ++ mark.dropLast := by
        have whole : mark <+: c :: before ++ mark ++ after := ⟨rest, split.symm⟩
        refine List.prefix_of_prefix_length_le whole ⟨mark.getLast nonempty :: after, ?_⟩ ?_
        · conv_rhs => rw [← List.dropLast_append_getLast nonempty]
          simp
        · have := List.length_pos_iff.2 nonempty
          simp only [List.length_append, List.length_cons, List.length_dropLast]
          omega
      obtain ⟨tail, same⟩ := early
      rw [← same] at first
      have occurs := hasPart_append mark [] tail
      rw [List.nil_append, first] at occurs
      exact absurd occurs Bool.false_ne_true
    have later : hasPart mark (before ++ mark.dropLast) = false :=
      (@hasPart_of_append mark [c] _ first).2
    rw [List.cons_append, List.cons_append, cutAt?, missed, inductionHypothesis later]
    rfl

/-- A text is cut at the first occurrence of a mark: none reaches its end any earlier. -/
theorem first_of_cutAt? {mark text before after : Text} (nonempty : mark ≠ [])
    (cut : cutAt? mark text = some (before, after)) :
    hasPart mark (before ++ mark.dropLast) = false := by
  induction text generalizing before with
  | nil =>
    cases mark with
    | nil => exact absurd rfl nonempty
    | cons c mark => simp [cutAt?] at cut
  | cons c text inductionHypothesis =>
    have whole := eq_of_cutAt? cut
    rw [cutAt?_cons] at cut
    split at cut
    · obtain ⟨rfl, rfl⟩ : [] = before ∧ _ = after := by simpa using cut
      rw [← Bool.not_eq_true, hasPart_iff]
      rintro ⟨front, back, same⟩
      have size := congrArg List.length same
      have := List.length_pos_iff.2 nonempty
      simp only [List.nil_append, List.length_append, List.length_dropLast] at size
      omega
    · next missed =>
      simp only [Option.map_eq_some_iff, Prod.mk.injEq] at cut
      obtain ⟨⟨front, back⟩, found, rfl, rfl⟩ := cut
      rw [List.cons_append, hasPart_eq_false_iff, cutAt?_cons]
      have lead : dropLead? mark (c :: (front ++ mark.dropLast)) = none := by
        rw [Option.eq_none_iff_forall_ne_some]
        intro rest starts
        rw [Option.eq_none_iff_forall_ne_some] at missed
        apply missed (rest ++ mark.getLast nonempty :: back)
        rw [dropLead?_eq_some_iff, ← List.append_assoc, ← dropLead?_eq_some_iff.1 starts, whole]
        conv_lhs => rw [← List.dropLast_append_getLast nonempty]
        simp
      rw [lead, hasPart_eq_false_iff.1 (inductionHypothesis found)]
      rfl

/-- A mark that is found behind the first character is found in what follows that character. -/
theorem exists_tail_of_cutAt? {mark text word after : Text} {c : Char}
    (cut : cutAt? mark text = some (c :: word, after)) :
    ∃ tail, text = c :: tail ∧ cutAt? mark tail = some (word, after) := by
  cases text with
  | nil => simp [cutAt?] at cut
  | cons d tail =>
    rw [cutAt?_cons] at cut
    split at cut
    · simp at cut
    · obtain ⟨⟨front, back⟩, later, same⟩ := Option.map_eq_some_iff.1 cut
      simp only [Prod.mk.injEq, List.cons.injEq] at same
      obtain ⟨⟨rfl, rfl⟩, rfl⟩ := same
      exact ⟨tail, rfl, later⟩

/-- An item that starts with a mark is not found before the first place where the mark stands. -/
theorem firstItem?_of_cutAt? {recognise : Recogniser α} {mark text before rest : Text}
    (starts : ∀ {text value}, recognise text = some value → ∃ rest, text = mark ++ rest)
    (cut : cutAt? mark text = some (before, rest)) :
    firstItem? recognise text = firstItem? recognise (mark ++ rest) := by
  induction text generalizing before with
  | nil =>
    obtain ⟨-, rfl, rfl⟩ : before = [] ∧ mark = [] ∧ rest = [] := by
      simpa using eq_of_cutAt? cut
    rfl
  | cons c text inductionHypothesis =>
    rw [cutAt?_cons] at cut
    split at cut
    · next after found =>
      obtain ⟨rfl, rfl⟩ : [] = before ∧ after = rest := by simpa using cut
      rw [dropLead?_eq_some_iff.1 found]
    · next missed =>
      obtain ⟨⟨front, back⟩, later, same⟩ := Option.map_eq_some_iff.1 cut
      obtain ⟨rfl, rfl⟩ := Prod.mk.inj same
      have nothing : recognise (c :: text) = none := by
        rw [Option.eq_none_iff_forall_ne_some]
        intro value found
        obtain ⟨after, split⟩ := starts found
        rw [dropLead?_eq_some_iff.2 split] at missed
        simp at missed
      rw [firstItem?, nothing]
      exact inductionHypothesis later

/-- A mark that starts with a character it holds nowhere else occurs before a place where that
character stands, or after it. -/
theorem cutAt?_append_cons {c : Char} {mark : Text} (once : c ∉ mark) (text rest : Text) :
    cutAt? (c :: mark) (text ++ c :: rest) =
      match cutAt? (c :: mark) text with
      | some (before, after) => some (before, after ++ c :: rest)
      | none => (cutAt? (c :: mark) (c :: rest)).map fun (before, after) =>
          (text ++ before, after) := by
  induction text with
  | nil => simp [cutAt?]
  | cons d text inductionHypothesis =>
    have lead := dropLead?_cons_append_cons once d text rest
    rw [List.cons_append, cutAt?_cons, lead, inductionHypothesis, cutAt?_cons _ d text]
    cases dropLead? (c :: mark) (d :: text) with
    | some after => rfl
    | none =>
      cases cutAt? (c :: mark) text with
      | some parts => rfl
      | none => cases cutAt? (c :: mark) (c :: rest) <;> rfl

/-- Such a mark is found right after a text that does not hold it. -/
theorem cutAt?_of_absent {c : Char} {mark text : Text} (once : c ∉ mark)
    (absent : hasPart (c :: mark) text = false) (rest : Text) :
    cutAt? (c :: mark) (text ++ c :: mark ++ rest) = some (text, rest) := by
  have found : cutAt? (c :: mark) (c :: (mark ++ rest)) = some ([], rest) :=
    cutAt?_mark_append (List.cons_ne_nil c mark) rest
  rw [List.append_assoc, List.cons_append, cutAt?_append_cons once,
    hasPart_eq_false_iff.1 absent, found]
  simp

/-- A mark never reaches into a text without the last character of the mark. -/
theorem cutAt?_append_of_last {mark rest : Text} (nonempty : mark ≠ [])
    (absent : ∀ last, mark.getLast? = some last → last ∉ rest) (text : Text) :
    cutAt? mark (text ++ rest) =
      (cutAt? mark text).map fun (before, after) => (before, after ++ rest) := by
  induction text with
  | nil =>
    have missed : hasPart mark rest = false := by
      rw [← Bool.not_eq_true, hasPart_iff]
      rintro ⟨before, after, rfl⟩
      apply absent _ (List.getLast?_eq_some_getLast nonempty)
      simp [List.getLast_mem]
    rw [List.nil_append, hasPart_eq_false_iff.1 missed]
    cases mark with
    | nil => exact absurd rfl nonempty
    | cons c mark => rfl
  | cons c text inductionHypothesis =>
    have lead := dropLead?_append_of_last absent (c :: text)
    rw [List.cons_append] at lead
    rw [List.cons_append, cutAt?_cons, lead, inductionHypothesis, cutAt?_cons _ c text]
    cases dropLead? mark (c :: text) with
    | some after => rfl
    | none => cases cutAt? mark text <;> rfl

/-- A recogniser whose items start with a mark finds none in a text without the mark, if what
follows the text starts like the mark: the mark holds its first character nowhere else. -/
theorem pieces_append_of_absent {recognise : Recogniser α} {c : Char} {mark : Text}
    (once : c ∉ mark)
    (starts : ∀ {text value}, recognise text = some value → ∃ rest, text = c :: mark ++ rest)
    {text : Text} (absent : hasPart (c :: mark) text = false) {rest : Text}
    (boundary : ∀ d, rest.head? = some d → d = c) :
    pieces recognise (text ++ rest) = text.map Piece.plain ++ pieces recognise rest := by
  induction text with
  | nil => rfl
  | cons d text inductionHypothesis =>
    have missed : recognise (d :: (text ++ rest)) = none := by
      rw [Option.eq_none_iff_forall_ne_some]
      intro value found
      obtain ⟨after, same⟩ := starts found
      obtain ⟨rfl, tail⟩ := List.cons.inj same
      -- The mark would have to lie in the text, since it cannot reach the character after it.
      have lead : (dropLead? mark text).isSome := by
        have whole : dropLead? mark (text ++ rest) = some after := dropLead?_eq_some_iff.2 tail
        cases rest with
        | nil => rw [List.append_nil] at whole; simp [whole]
        | cons e rest =>
          obtain rfl := boundary e rfl
          rw [dropLead?_append_cons once] at whole
          obtain ⟨before, found, -⟩ := Option.map_eq_some_iff.1 whole
          simp [found]
      obtain ⟨before, found⟩ := Option.isSome_iff_exists.1 lead
      rw [dropLead?_eq_some_iff.1 found] at absent
      have occurs := hasPart_append (d :: mark) [] before
      rw [List.nil_append, List.cons_append, absent] at occurs
      exact Bool.false_ne_true occurs
    have later : hasPart (c :: mark) text = false :=
      (@hasPart_of_append (c :: mark) [d] text absent).2
    rw [List.cons_append, pieces_cons_of_none missed, inductionHypothesis later]
    rfl

/-- In a row of sources, each with a text after it, every source is one item and the texts between
are plain, if the mark that every item starts with occurs in none of them. -/
theorem pieces_row_of_absent {ι : Type} {recognise : Recogniser α} {c : Char} {mark : Text}
    (once : c ∉ mark)
    (starts : ∀ {text value}, recognise text = some value → ∃ rest, text = c :: mark ++ rest)
    {source gap : ι → Text} {value : ι → α} {lead : Text} {row : List ι}
    (leadAbsent : hasPart (c :: mark) lead = false)
    (reads : ∀ entry ∈ row, ReadsAs recognise (source entry) (value entry))
    (gapAbsent : ∀ entry ∈ row, hasPart (c :: mark) (gap entry) = false) :
    pieces recognise (lead ++ row.flatMap fun entry => source entry ++ gap entry) =
      lead.map Piece.plain ++
        row.flatMap fun entry => .item (value entry) :: (gap entry).map Piece.plain := by
  induction row generalizing lead with
  | nil => exact pieces_append_of_absent once starts leadAbsent (by simp)
  | cons entry row inductionHypothesis =>
    obtain ⟨entryReads, reads⟩ := List.forall_mem_cons.1 reads
    obtain ⟨entryAbsent, gapAbsent⟩ := List.forall_mem_cons.1 gapAbsent
    rw [List.flatMap_cons, List.append_assoc, pieces_append_of_absent once starts leadAbsent ?_,
      pieces_append_of_readsAs entryReads, inductionHypothesis entryAbsent reads gapAbsent]
    · rfl
    · -- An item starts with the mark, so what follows the first text does too.
      intro d head
      obtain ⟨after, same⟩ := starts (entryReads.2 (gap entry ++ row.flatMap fun entry =>
        source entry ++ gap entry))
      rw [same] at head
      exact (Option.some.inj head).symm

/-! ## Replacing -/

theorem replaceFrom_nil (mark replacement : Text) (skip : Nat) :
    replaceFrom mark replacement skip [] = [] := by
  cases skip <;> rfl

/-- An inert text is kept as it stands. -/
theorem replaceAll_append_of_inert {mark text : Text} (inert : Inert (dropLead? mark) text)
    (replacement rest : Text) :
    replaceAll mark replacement (text ++ rest) = text ++ replaceAll mark replacement rest := by
  induction text with
  | nil => rfl
  | cons c text inductionHypothesis =>
    obtain ⟨missed, inert⟩ := inert_cons.1 inert
    have lead : startsWith mark (c :: (text ++ rest)) = false := by
      simp [startsWith, missed rest]
    rw [List.cons_append, replaceAll, replaceFrom, lead]
    simpa [replaceAll] using inductionHypothesis inert

private theorem replaceFrom_append_of_last {mark rest : Text} (nonempty : mark ≠ [])
    (absent : ∀ last, mark.getLast? = some last → last ∉ rest) (replacement : Text)
    {skip : Nat} {text : Text} (within : skip ≤ text.length) :
    replaceFrom mark replacement skip (text ++ rest) =
      replaceFrom mark replacement skip text ++ rest := by
  induction text generalizing skip with
  | nil =>
    obtain rfl : skip = 0 := by simpa using within
    induction rest with
    | nil => rfl
    | cons c rest restHypothesis =>
      have lead : startsWith mark (c :: rest) = false := by
        have missed := dropLead?_append_of_last absent []
        cases mark with
        | nil => exact absurd rfl nonempty
        | cons d mark =>
          rw [List.nil_append, dropLead?_cons_nil, Option.map_none] at missed
          rw [startsWith, missed]
          rfl
      have later : ∀ last, mark.getLast? = some last → last ∉ rest :=
        fun last ends member => absent last ends (List.mem_cons_of_mem c member)
      have tail := restHypothesis later
      rw [List.nil_append, replaceFrom_nil, List.nil_append] at tail
      rw [List.nil_append, replaceFrom_nil, List.nil_append, replaceFrom, lead, tail]
      rfl
  | cons c text inductionHypothesis =>
    cases skip with
    | succ skip =>
      simp only [List.cons_append, replaceFrom]
      exact inductionHypothesis (by simpa using within)
    | zero =>
      have lead : startsWith mark (c :: (text ++ rest)) = startsWith mark (c :: text) := by
        rw [startsWith, ← List.cons_append, dropLead?_append_of_last absent, startsWith,
          Option.isSome_map]
      rw [List.cons_append, replaceFrom, lead, replaceFrom]
      cases starts : startsWith mark (c :: text) with
      | false => simp [inductionHypothesis (Nat.zero_le _)]
      | true =>
        obtain ⟨after, found⟩ := Option.isSome_iff_exists.1 starts
        have size := congrArg List.length (dropLead?_eq_some_iff.1 found)
        have fits : mark.length - 1 ≤ text.length := by
          simp only [List.length_cons, List.length_append] at size
          omega
        simp [inductionHypothesis fits]

/-- A text without the last character of the mark is kept where it stands at the end. -/
theorem replaceAll_append_of_last {mark rest : Text} (nonempty : mark ≠ [])
    (absent : ∀ last, mark.getLast? = some last → last ∉ rest) (replacement text : Text) :
    replaceAll mark replacement (text ++ rest) = replaceAll mark replacement text ++ rest :=
  replaceFrom_append_of_last nonempty absent replacement (Nat.zero_le _)

end Folio.Text
