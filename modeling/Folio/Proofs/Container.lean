import Folio.Proofs.Filling

/-!
# Containers of regions

A region is set into its container at every placeholder of the content. The container is read from
left to right, and an `@` both opens and closes a placeholder, so the mark of the content is not
one wherever it stands: in `@a@BODY@` its first `@` closes `@a@`, what is left is no placeholder,
and the content is dropped.

Which `@` opens is known from what stands before it. A reading of a text goes through three states,
and the mark is a placeholder exactly where no name is open before it. A container that holds such
a mark shows the content of every region, and any other container shows the same for every content.
-/

namespace Folio

open Text

namespace Placeholder

/-- What a reading of a template has in hand. -/
inductive Reading where
  /-- No `@` that could open a placeholder. -/
  | plain
  /-- An `@` that opens a placeholder if a name follows. -/
  | sign
  /-- An `@` and a name behind it: another `@` closes the placeholder. -/
  | name
deriving DecidableEq, Repr

namespace Reading

/-- A reading goes on over a character. -/
def next (reading : Reading) (c : Char) : Reading :=
  if c = '@' then
    match reading with
    | .name => .plain
    | _ => .sign
  else if Unicode.isWordChar c then
    match reading with
    | .plain => .plain
    | _ => .name
  else .plain

/-- What a reading has in hand after a text. -/
def after (text : Text) : Reading :=
  text.foldl next .plain

theorem next_eq_sign_iff {reading : Reading} {c : Char} :
    next reading c = .sign ↔ c = '@' ∧ reading ≠ .name := by
  by_cases isSign : c = '@'
  · subst isSign
    cases reading <;> decide
  · cases reading <;> cases word : Unicode.isWordChar c <;> simp [next, isSign, word]

theorem next_eq_name_iff {reading : Reading} {c : Char} :
    next reading c = .name ↔ Unicode.isWordChar c = true ∧ reading ≠ .plain := by
  by_cases isSign : c = '@'
  · subst isSign
    cases reading <;> decide
  · cases reading <;> cases word : Unicode.isWordChar c <;> simp [next, isSign, word]

theorem next_of_outside {c : Char} (notSign : c ≠ '@') (outside : Unicode.isWordChar c = false)
    (reading : Reading) : next reading c = .plain := by
  simp [next, notSign, outside]

theorem next_plain_of_ne {c : Char} (notSign : c ≠ '@') : next .plain c = .plain := by
  simp [next, notSign]

theorem after_append_singleton (text : Text) (c : Char) :
    after (text ++ [c]) = next (after text) c := by
  rw [after, List.foldl_append]
  rfl

theorem after_cons_of_ne {c : Char} (notSign : c ≠ '@') (text : Text) :
    after (c :: text) = after text := by
  rw [after, List.foldl_cons, next_plain_of_ne notSign]
  rfl

/-- A sign is in hand right behind it, unless it closes a placeholder. -/
theorem after_eq_sign_iff {text : Text} :
    after text = .sign ↔ ∃ lead, text = lead ++ ['@'] ∧ after lead ≠ .name := by
  constructor
  · intro isSign
    rcases List.eq_nil_or_concat' text with rfl | ⟨lead, c, rfl⟩
    · cases isSign
    · rw [after_append_singleton, next_eq_sign_iff] at isSign
      obtain ⟨rfl, closed⟩ := isSign
      exact ⟨lead, rfl, closed⟩
  · rintro ⟨lead, rfl, closed⟩
    rw [after_append_singleton, next_eq_sign_iff]
    exact ⟨rfl, closed⟩

/-- A name is open behind a sign and word characters, unless the sign closes a placeholder. -/
theorem after_eq_name_iff {text : Text} :
    after text = .name ↔
      ∃ lead word, text = lead ++ '@' :: word ∧ word ≠ [] ∧
        (∀ c ∈ word, Unicode.isWordChar c = true) ∧ after lead ≠ .name := by
  constructor
  · intro isName
    induction text using List.reverseRecOn with
    | nil => cases isName
    | append_singleton text c inductionHypothesis =>
      rw [after_append_singleton, next_eq_name_iff] at isName
      obtain ⟨last, opened⟩ := isName
      cases found : after text with
      | plain => exact absurd found opened
      | sign =>
        obtain ⟨lead, rfl, closed⟩ := after_eq_sign_iff.1 found
        exact ⟨lead, [c], by simp, List.cons_ne_nil c [], by simpa using last, closed⟩
      | name =>
        obtain ⟨lead, word, rfl, nonempty, all, closed⟩ := inductionHypothesis found
        refine ⟨lead, word ++ [c], by simp, by simp, ?_, closed⟩
        rw [List.forall_mem_append]
        exact ⟨all, by simpa using last⟩
  · rintro ⟨lead, word, rfl, nonempty, all, closed⟩
    induction word using List.reverseRecOn with
    | nil => exact absurd rfl nonempty
    | append_singleton word c inductionHypothesis =>
      rw [List.forall_mem_append] at all
      have split : lead ++ '@' :: (word ++ [c]) = lead ++ '@' :: word ++ [c] := by simp
      rw [split, after_append_singleton, next_eq_name_iff]
      refine ⟨all.2 c (List.mem_singleton_self c), ?_⟩
      by_cases empty : word = []
      · subst empty
        rw [after_eq_sign_iff.2 ⟨lead, rfl, closed⟩]
        decide
      · rw [inductionHypothesis empty all.1]
        decide

/-- A placeholder leaves nothing in hand. -/
theorem after_placeholder {name : Text} (nonempty : name ≠ [])
    (word : ∀ c ∈ name, Unicode.isWordChar c = true) (rest : Text) :
    after ('@' :: (name ++ '@' :: rest)) = after rest := by
  have opened : after ('@' :: name) = .name :=
    after_eq_name_iff.2 ⟨[], name, rfl, nonempty, word, by decide⟩
  rw [after, List.foldl_cons] at opened
  rw [after, List.foldl_cons, List.foldl_append, opened]
  rfl

/-- What a sign before a text changes is forgotten at the first character outside a name that does
not close a placeholder. -/
theorem after_sign_cons {word : Text} {d : Char}
    (outside : Unicode.isWordChar d = false) (missed : word = [] ∨ d ≠ '@') (more : Text) :
    after ('@' :: (word ++ d :: more)) = after (word ++ d :: more) := by
  by_cases isSign : d = '@'
  · subst isSign
    rcases missed with rfl | notSign
    · rfl
    · exact absurd rfl notSign
  · have forgotten (reading : Reading) :
        (word ++ d :: more).foldl next reading = more.foldl next .plain := by
      rw [List.foldl_append, List.foldl_cons, next_of_outside isSign outside]
    rw [after, List.foldl_cons, forgotten, after, forgotten]

end Reading

/-- A sign and a name behind it begin a placeholder exactly if a sign ends the name. -/
theorem placeholder?_sign_cons_eq_none_iff {word : Text} {d : Char}
    (all : ∀ c ∈ word, Unicode.isWordChar c = true) (outside : Unicode.isWordChar d = false)
    (more : Text) :
    placeholder? ('@' :: (word ++ d :: more)) = none ↔ word = [] ∨ d ≠ '@' := by
  rw [placeholder?, run_append_cons all outside]
  cases word with
  | nil => simp
  | cons c word =>
    by_cases isSign : d = '@'
    · subst isSign
      simp
    · simp [isSign]

/-- Where a sign begins no placeholder and leaves no name open, it begins none before another sign
either. -/
theorem placeholder?_sign_append {text : Text} (missed : placeholder? ('@' :: text) = none)
    (closed : Reading.after ('@' :: text) ≠ .name) (rest : Text) :
    placeholder? ('@' :: (text ++ '@' :: rest)) = none ∧ Reading.after text ≠ .name := by
  rcases all_or_first_outside Unicode.isWordChar text with
    all | ⟨word, d, more, rfl, all, outside⟩
  · by_cases empty : text = []
    · subst empty
      exact ⟨rfl, by decide⟩
    · exact absurd (Reading.after_eq_name_iff.2 ⟨[], text, rfl, empty, all, by decide⟩) closed
  · have ends := (placeholder?_sign_cons_eq_none_iff all outside more).1 missed
    rw [Reading.after_sign_cons outside ends] at closed
    refine ⟨?_, closed⟩
    rw [List.append_assoc, List.cons_append]
    exact (placeholder?_sign_cons_eq_none_iff all outside _).2 ends

/-- Where a sign begins no placeholder, it leaves no name open before another sign. -/
theorem Reading.after_sign_ne_name {text rest : Text}
    (missed : placeholder? ('@' :: (text ++ '@' :: rest)) = none)
    (closed : after text ≠ .name) : after ('@' :: text) ≠ .name := by
  rcases all_or_first_outside Unicode.isWordChar text with
    all | ⟨word, d, more, rfl, all, outside⟩
  · by_cases empty : text = []
    · subst empty
      decide
    · rw [placeholder?_eq_some_iff.2 ⟨empty, all, rfl⟩] at missed
      cases missed
  · rw [List.append_assoc, List.cons_append] at missed
    have ends := (placeholder?_sign_cons_eq_none_iff all outside _).1 missed
    rwa [after_sign_cons outside ends]

/-- A template is read apart before a sign where no name is open. -/
theorem pieces_append_sign {lead : Text} (closed : Reading.after lead ≠ .name) (rest : Text) :
    pieces placeholder? (lead ++ '@' :: rest) =
      pieces placeholder? lead ++ pieces placeholder? ('@' :: rest) := by
  induction lead using scan_induction placeholder?_proper with
  | nil => rfl
  | plain c text missed inductionHypothesis =>
    have later : placeholder? (c :: (text ++ '@' :: rest)) = none ∧
        Reading.after text ≠ .name := by
      by_cases isSign : c = '@'
      · subst isSign
        exact placeholder?_sign_append missed closed rest
      · rw [Reading.after_cons_of_ne isSign] at closed
        exact ⟨placeholder?_cons_of_ne isSign _, closed⟩
    rw [List.cons_append, pieces_cons_of_none later.1, pieces_cons_of_none missed,
      inductionHypothesis later.2]
    rfl
  | item taken text name taking found inductionHypothesis =>
    obtain ⟨nonempty, word, split⟩ := placeholder?_eq_some_iff.1 found
    rw [split] at closed ⊢
    rw [Reading.after_placeholder nonempty word] at closed
    rw [List.cons_append, List.append_assoc, List.cons_append,
      pieces_placeholder_append nonempty word, pieces_placeholder_append nonempty word,
      inductionHypothesis closed]
    rfl

/-- The placeholders of a template are the names between two signs before which no name is
open. -/
theorem mem_items_placeholder?_iff {name template : Text} :
    name ∈ items placeholder? template ↔
      name ≠ [] ∧ (∀ c ∈ name, Unicode.isWordChar c = true) ∧
        ∃ before rest, template = before ++ '@' :: (name ++ '@' :: rest) ∧
          Reading.after before ≠ .name := by
  constructor
  · intro member
    induction template using scan_induction placeholder?_proper with
    | nil => cases member
    | plain c text missed inductionHypothesis =>
      rw [items, pieces_cons_of_none missed] at member
      obtain ⟨nonempty, word, before, rest, rfl, closed⟩ := inductionHypothesis member
      refine ⟨nonempty, word, c :: before, rest, rfl, ?_⟩
      by_cases isSign : c = '@'
      · subst isSign
        exact Reading.after_sign_ne_name missed closed
      · rwa [Reading.after_cons_of_ne isSign]
    | item taken text other taking found inductionHypothesis =>
      obtain ⟨otherNonempty, otherWord, split⟩ := placeholder?_eq_some_iff.1 found
      rw [items_append_of_some taking found, List.mem_cons] at member
      rw [split]
      rcases member with rfl | later
      · exact ⟨otherNonempty, otherWord, [], text, rfl, by decide⟩
      · obtain ⟨nonempty, word, before, rest, rfl, closed⟩ := inductionHypothesis later
        refine ⟨nonempty, word, '@' :: (other ++ '@' :: before), rest, by simp, ?_⟩
        rwa [Reading.after_placeholder otherNonempty otherWord]
  · rintro ⟨nonempty, word, before, rest, rfl, closed⟩
    rw [items, pieces_append_sign closed, pieces_placeholder_append nonempty word,
      List.filterMap_append]
    simp

end Placeholder

namespace Registers

open Placeholder (Reading)

/-! ## Regions in their containers -/

/-- What a container shows for the name of a placeholder: the content of the region for `BODY`, and
nothing for any other name. -/
def shown (content name : Text) : Text :=
  if name = "BODY".toList then content else []

/-- A region is set into its container at every placeholder of the content. -/
theorem wrapEntry_eq (boxes : Table) (name content : Text) :
    wrapEntry boxes (name, content) =
      substitute Placeholder.placeholder? (shown content)
        ((boxes.find? (containerName name)).getD bodyMark) := by
  have values : Placeholder.value (.ofList [("BODY".toList, content)]) ["BODY".toList] =
      shown content := by
    funext other
    by_cases isBody : other = "BODY".toList
    · subst isBody
      rw [shown, if_pos rfl]
      rfl
    · rw [shown, if_neg isBody, Placeholder.value, Dictionary.ofList, Dictionary.insertAll,
        List.foldl_cons, List.foldl_nil, Dictionary.find?_insert, if_neg isBody]
      simp
  rw [wrapEntry, Placeholder.fill, values]

/-- Without a container a region stands alone. -/
theorem substitute_bodyMark (content : Text) :
    substitute Placeholder.placeholder? (shown content) bodyMark = content := by
  have reads := @Placeholder.readsAs_placeholder "BODY".toList (by simp) (by decide)
  rw [bodyMark_eq, substitute_of_readsAs reads, shown, if_pos rfl]

/-- What is made of a region: its container, with its content for the mark. -/
theorem wrapEntry_of_container {boxes : Table} {name container : Text}
    (found : boxes.find? (containerName name) = some container) (content : Text) :
    wrapEntry boxes (name, content) =
      substitute Placeholder.placeholder? (shown content) container := by
  rw [wrapEntry_eq, found, Option.getD_some]

theorem wrapEntry_of_alone {boxes : Table} {name : Text}
    (alone : boxes.find? (containerName name) = none) (content : Text) :
    wrapEntry boxes (name, content) = content := by
  rw [wrapEntry_eq, alone, Option.getD_none, substitute_bodyMark]

/-! ## Containers that show their contents -/

/-- A container shows the content of its region: a mark of the content stands in it where no name is
open. -/
def ShowsContent (container : Text) : Prop :=
  ∃ before after, container = before ++ bodyMark ++ after ∧ Reading.after before ≠ .name

/-- A container shows the content if the mark is one of its placeholders. -/
theorem showsContent_iff {container : Text} :
    ShowsContent container ↔ "BODY".toList ∈ items Placeholder.placeholder? container := by
  have nonempty : "BODY".toList ≠ [] := by simp
  have word : ∀ c ∈ "BODY".toList, Unicode.isWordChar c = true := by decide
  have split (before rest : Text) : before ++ bodyMark ++ rest =
      before ++ '@' :: ("BODY".toList ++ '@' :: rest) := by
    rw [bodyMark_eq]
    simp
  rw [Placeholder.mem_items_placeholder?_iff]
  constructor
  · rintro ⟨before, rest, rfl, closed⟩
    exact ⟨nonempty, word, before, rest, split before rest, closed⟩
  · rintro ⟨-, -, before, rest, rfl, closed⟩
    exact ⟨before, rest, (split before rest).symm, closed⟩

/-- A container that shows the content keeps it. -/
theorem ShowsContent.exists_wrapEntry_eq {container : Text} (shows : ShowsContent container)
    {boxes : Table} {name : Text} (found : boxes.find? (containerName name) = some container)
    (content : Text) :
    ∃ left right, wrapEntry boxes (name, content) = left ++ content ++ right := by
  rw [wrapEntry_of_container found]
  exact exists_substitute_eq_of_mem (showsContent_iff.1 shows) (shown content)

/-- Any other container is the same for every content. -/
theorem wrapEntry_eq_of_not_showsContent {boxes : Table} {name container : Text}
    (found : boxes.find? (containerName name) = some container)
    (drops : ¬ShowsContent container) (content other : Text) :
    wrapEntry boxes (name, content) = wrapEntry boxes (name, other) := by
  rw [wrapEntry_of_container found, wrapEntry_of_container found]
  apply substitute_congr
  intro placeholder isItem
  have notBody : placeholder ≠ "BODY".toList := by
    rintro rfl
    exact drops (showsContent_iff.2 isItem)
  rw [shown, shown, if_neg notBody, if_neg notBody]

/-- A region is kept in its container, and alone without one. -/
theorem exists_wrapEntry_eq {boxes : Table} {entry : Text × Text}
    (shows : ∀ container, boxes.find? (containerName entry.1) = some container →
      ShowsContent container) :
    ∃ around : Text × Text, wrapEntry boxes entry = around.1 ++ entry.2 ++ around.2 ∧
      (boxes.find? (containerName entry.1) = none → around = ([], [])) := by
  obtain ⟨name, content⟩ := entry
  cases found : boxes.find? (containerName name) with
  | none =>
    refine ⟨([], []), ?_, fun _ => rfl⟩
    rw [wrapEntry_of_alone found]
    simp
  | some container =>
    obtain ⟨left, right, kept⟩ := (shows container found).exists_wrapEntry_eq found content
    exact ⟨(left, right), kept, by simp⟩

/-- Regions in containers that show their contents follow one another with the contents kept. -/
theorem exists_wrap_eq {boxes : Table} {registers : Registers}
    (shows : ∀ entry ∈ registers.entries, ∀ container,
      boxes.find? (containerName entry.1) = some container → ShowsContent container) :
    ∃ left right : Text × Text → Text,
      registers.wrap boxes =
        registers.entries.flatMap (fun entry => left entry ++ entry.2 ++ right entry) ∧
      ∀ entry ∈ registers.entries, boxes.find? (containerName entry.1) = none →
        left entry = [] ∧ right entry = [] := by
  have kept : ∀ entry, ∃ around : Text × Text, entry ∈ registers.entries →
      wrapEntry boxes entry = around.1 ++ entry.2 ++ around.2 ∧
        (boxes.find? (containerName entry.1) = none → around = ([], [])) := by
    intro entry
    by_cases isEntry : entry ∈ registers.entries
    · obtain ⟨around, kept⟩ := exists_wrapEntry_eq (shows entry isEntry)
      exact ⟨around, fun _ => kept⟩
    · exact ⟨([], []), fun member => absurd member isEntry⟩
  obtain ⟨around, kept⟩ := Classical.skolem.1 kept
  refine ⟨fun entry => (around entry).1, fun entry => (around entry).2, ?_, ?_⟩
  · exact List.flatMap_congr fun entry isEntry => (kept entry isEntry).1
  · intro entry isEntry alone
    have nothing := (kept entry isEntry).2 alone
    simp [nothing]

/-- A mark is passed over only directly behind an `@` and a name. -/
theorem exists_name_of_not_showsContent {before rest : Text}
    (drops : ¬ShowsContent (before ++ bodyMark ++ rest)) :
    ∃ lead name, before = lead ++ '@' :: name ∧ name ≠ [] ∧
      ∀ c ∈ name, Unicode.isWordChar c = true := by
  have opened : Reading.after before = .name := by
    by_contra closed
    exact drops ⟨before, rest, rfl, closed⟩
  obtain ⟨lead, name, split, nonempty, word, -⟩ := Reading.after_eq_name_iff.1 opened
  exact ⟨lead, name, split, nonempty, word⟩

/-- The containers keep the content of every region, in order, if each of them holds a mark of the
content where no name is open, and a region without a container is its content. A container without
such a mark shows the same for every content. Of the marks that a container holds, only those are
passed over that stand directly behind an `@` and a name. -/
theorem wrap_keeps_contents (boxes : Table) :
    (∀ registers : Registers,
      (∀ entry ∈ registers.entries, ∀ container,
        boxes.find? (containerName entry.1) = some container → ShowsContent container) →
      ∃ left right : Text × Text → Text,
        registers.wrap boxes =
          registers.entries.flatMap (fun entry => left entry ++ entry.2 ++ right entry) ∧
        ∀ entry ∈ registers.entries, boxes.find? (containerName entry.1) = none →
          left entry = [] ∧ right entry = []) ∧
    (∀ name container, boxes.find? (containerName name) = some container →
      ¬ShowsContent container → ∀ content other,
        wrapEntry boxes (name, content) = wrapEntry boxes (name, other)) ∧
    ∀ before rest : Text, ¬ShowsContent (before ++ bodyMark ++ rest) →
      ∃ lead name, before = lead ++ '@' :: name ∧ name ≠ [] ∧
        ∀ c ∈ name, Unicode.isWordChar c = true := by
  refine ⟨?kept, ?dropped, ?passedOver⟩
  case kept =>
    intro registers shows
    exact exists_wrap_eq shows
  case dropped =>
    intro name container found drops content other
    exact wrapEntry_eq_of_not_showsContent found drops content other
  case passedOver =>
    intro before rest drops
    exact exists_name_of_not_showsContent drops

/-- Two containers and a region without one. The first container keeps an `@`, and no name is open
before the mark behind `@a@b`; the name that the second container opens ends at a blank. The third
container passes its mark over, and is the same with a content and without. -/
theorem wrap_keeps_contents_of_signs :
    let boxes : Table := ⟨.exact, .empty, .ofList
      [("main-container".toList, "@@BODY@|@a@b@BODY@".toList),
       ("side-container".toList, "me@x @BODY@.".toList),
       ("foot-container".toList, "@a@BODY@".toList)]⟩
    let registers : Registers :=
      ⟨[("main".toList, "<p>@BODY@".toList), ("note".toList, "@a@".toList),
        ("side".toList, "x@".toList)]⟩
    (∀ entry ∈ registers.entries, ∀ container,
      boxes.find? (containerName entry.1) = some container → ShowsContent container) ∧
    registers.wrap boxes = "@<p>@BODY@|b<p>@BODY@@a@me@x x@.".toList ∧
    (∃ left right : Text × Text → Text, registers.wrap boxes =
      registers.entries.flatMap fun entry => left entry ++ entry.2 ++ right entry) ∧
    ¬ShowsContent "@a@BODY@".toList ∧
    wrapEntry boxes ("foot".toList, "f".toList) = wrapEntry boxes ("foot".toList, []) := by
  intro boxes registers
  have shows : ∀ entry ∈ registers.entries, ∀ container,
      boxes.find? (containerName entry.1) = some container → ShowsContent container := by
    have isItem : ∀ entry ∈ registers.entries,
        ∀ container ∈ boxes.find? (containerName entry.1),
          "BODY".toList ∈ items Placeholder.placeholder? container := by
      decide +kernel
    intro entry isEntry container found
    exact showsContent_iff.2 (isItem entry isEntry container found)
  have drops : ¬ShowsContent "@a@BODY@".toList := by
    rw [showsContent_iff]
    decide +kernel
  obtain ⟨left, right, kept, -⟩ := (wrap_keeps_contents boxes).1 registers shows
  have same := (wrap_keeps_contents boxes).2.1 "foot".toList "@a@BODY@".toList
    (by decide +kernel) drops "f".toList []
  exact ⟨shows, by decide +kernel, ⟨left, right, kept⟩, drops, same⟩

/-- A container that holds the mark and drops the content all the same: its `@a@` is read as a
placeholder, and what is left of the mark as text. As the body of a box it would be cut at the
mark. -/
theorem wrap_drops_content :
    let container := "@a@BODY@".toList
    let boxes : Table := ⟨.exact, .empty, .ofList [("main-container".toList, container)]⟩
    let registers : Registers := ⟨[(mainRegion, "M".toList)]⟩
    (∀ entry ∈ registers.entries,
      boxes.find? (containerName entry.1) = some container ∧
        hasPart bodyMark container = true ∧
        hasPart entry.2 (registers.wrap boxes) = false) ∧
    registers.wrap boxes = "BODY@".toList ∧ splitBox container = ("@a".toList, []) := by
  decide +kernel

end Registers

end Folio
