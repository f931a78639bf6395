import Folio.Metadata
import Folio.Proofs.Text.Mark

/-!
# The description of a page

The description is looked for from left to right. At an opening tag the text is taken from the
first character after the tag up to the first closing tag behind that character, as long as no line
ends in between; otherwise the search goes on after the opening tag. So a first paragraph on one
line gives the description. A first paragraph with a line break is passed over, and an empty one
lends its closing tag to the text that follows it.
-/

namespace Folio.Metadata

open Text

/-! ## One paragraph -/

theorem exists_eq_of_paragraph? {text : Text} {value : Text × Text}
    (found : paragraph? text = some value) : ∃ rest, text = "<p>".toList ++ rest := by
  rw [paragraph?, Option.bind_eq_bind, Option.bind_eq_some_iff] at found
  obtain ⟨rest, opened, -⟩ := found
  exact ⟨rest, dropLead?_eq_some_iff.1 opened⟩

/-- A text on one line, with a character before it, is on one line if the character does not end the
line. -/
theorem filter_oneLine_cons (c : Char) (parts : Option (Text × Text)) :
    (if c = '\n' then none
      else (parts.filter fun parts => '\n' ∉ parts.1).map fun (content, after) =>
        (c :: content, after)) =
      (parts.map fun (content, after) => (c :: content, after)).filter
        fun parts => '\n' ∉ parts.1 := by
  cases parts with
  | none => simp
  | some parts =>
    by_cases isBreak : c = '\n'
    · simp [Option.filter, isBreak]
    · by_cases inside : '\n' ∈ parts.1
      · simp [Option.filter, inside]
      · simp [Option.filter, isBreak, inside, Ne.symm isBreak]

/-- The text of a paragraph goes on to the first closing tag, if no line ends before it. -/
theorem paragraphText?_eq (text : Text) :
    paragraphText? text = (cutAt? "</p>".toList text).filter fun parts => '\n' ∉ parts.1 := by
  induction text with
  | nil => rfl
  | cons c text inductionHypothesis =>
    rw [paragraphText?, cutAt?_cons, inductionHypothesis]
    cases dropLead? "</p>".toList (c :: text) with
    | some after => simp [Option.filter]
    | none => exact filter_oneLine_cons c (cutAt? "</p>".toList text)

/-- The text of a paragraph is taken from its first character, even where that character starts a
closing tag. -/
theorem paragraph?_opening_append (c : Char) (tail : Text) :
    paragraph? ("<p>".toList ++ c :: tail) =
      ((cutAt? "</p>".toList tail).map fun (content, after) => (c :: content, after)).filter
        fun parts => '\n' ∉ parts.1 := by
  have opened : dropLead? "<p>".toList ("<p>".toList ++ c :: tail) = some (c :: tail) :=
    dropLead?_eq_some_iff.2 rfl
  rw [paragraph?, opened]
  simp only [Option.bind_eq_bind, Option.bind_some, paragraphText?_eq]
  exact filter_oneLine_cons c (cutAt? "</p>".toList tail)

/-- A closing tag stands somewhere behind the first character of a paragraph. -/
theorem hasPart_of_paragraph? {c : Char} {text : Text} {value : Text × Text}
    (found : paragraph? (c :: text) = some value) : hasPart "</p>".toList text = true := by
  obtain ⟨rest, split⟩ := exists_eq_of_paragraph? found
  rw [split] at found
  cases rest with
  | nil => simp [paragraph?] at found
  | cons d tail =>
    rw [paragraph?_opening_append, Option.filter_eq_some_iff, Option.map_eq_some_iff] at found
    obtain ⟨⟨⟨content, after⟩, cut, -⟩, -⟩ := found
    have tag : "<p>".toList = '<' :: "p>".toList := by simp
    rw [tag, List.cons_append] at split
    obtain ⟨-, rfl⟩ := List.cons.inj split
    refine hasPart_iff.2 ⟨"p>".toList ++ d :: content, after, ?_⟩
    simp [eq_of_cutAt? cut]

/-- No paragraph starts inside an opening tag, so a search that finds none at the tag goes on after
it. -/
theorem firstItem?_opening_append {rest : Text}
    (missed : paragraph? ("<p>".toList ++ rest) = none) :
    firstItem? paragraph? ("<p>".toList ++ rest) = firstItem? paragraph? rest := by
  have tag : "<p>".toList ++ rest = '<' :: 'p' :: '>' :: rest := by simp
  have inName : paragraph? ('p' :: '>' :: rest) = none := rfl
  have atEnd : paragraph? ('>' :: rest) = none := rfl
  rw [tag] at missed ⊢
  rw [firstItem?, missed, firstItem?, inName, firstItem?, atEnd]

/-- In a text without a closing tag behind its first character no paragraph starts. -/
theorem itemFree_of_noClosing {c : Char} {text : Text}
    (noClosing : hasPart "</p>".toList text = false) : ItemFree paragraph? (c :: text) := by
  have missed : paragraph? (c :: text) = none := by
    rw [Option.eq_none_iff_forall_ne_some]
    intro value found
    rw [hasPart_of_paragraph? found] at noClosing
    exact Bool.false_ne_true noClosing.symm
  refine itemFree_cons.2 ⟨missed, itemFree_of_absent ?_ noClosing⟩
  intro text value found
  cases text with
  | nil => exact absurd found (by simp [paragraph?])
  | cons d text =>
    have later := hasPart_of_paragraph? found
    obtain ⟨before, after, rfl⟩ := hasPart_iff.1 later
    exact hasPart_append _ (d :: before) after

/-! ## The first paragraph -/

/-- What the search gives at an opening tag: the text from the character behind the tag up to the
closing tag that follows this character, if it stands on one line. -/
theorem firstItem?_at_opening (c : Char) (tail : Text) :
    firstItem? paragraph? ("<p>".toList ++ c :: tail) =
      match cutAt? "</p>".toList tail with
      | none => none
      | some (word, _) =>
        if '\n' ∈ c :: word then firstItem? paragraph? (c :: tail) else some (c :: word) := by
  have read := paragraph?_opening_append c tail
  cases closes : cutAt? "</p>".toList tail with
  | none =>
    rw [closes] at read
    have free := @itemFree_of_noClosing c tail (hasPart_eq_false_iff.2 closes)
    rw [firstItem?_opening_append read, firstItem?_of_itemFree free]
  | some parts =>
    obtain ⟨word, after⟩ := parts
    rw [closes] at read
    by_cases broken : '\n' ∈ c :: word
    · have missed : paragraph? ("<p>".toList ++ c :: tail) = none := by
        rw [read]
        simp [Option.filter, broken]
      rw [firstItem?_opening_append missed]
      exact (if_pos broken).symm
    · have found : paragraph? ("<p>".toList ++ c :: tail) = some (c :: word, after) := by
        rw [read]
        simp [Option.filter, broken]
      have tag : "<p>".toList ++ c :: tail = '<' :: 'p' :: '>' :: c :: tail := by simp
      rw [tag] at found ⊢
      rw [firstItem?, found]
      exact (if_neg broken).symm

/-- The description of any page. At the first opening tag a text is taken from the character behind
the tag up to the closing tag that follows this character. It is the description if it stands on one
line, and otherwise the search goes on behind the opening tag. -/
theorem description_eq (html : Text) :
    (detect html).description =
      match cutAt? "<p>".toList html with
      | none => none
      | some (_, []) => none
      | some (_, c :: tail) =>
        match cutAt? "</p>".toList tail with
        | none => none
        | some (word, _) =>
          if '\n' ∈ c :: word then (detect (c :: tail)).description
          else some (Entity.requote (c :: word)) := by
  have taken : (detect html).description = (firstItem? paragraph? html).map Entity.requote := rfl
  rw [taken]
  cases opens : cutAt? "<p>".toList html with
  | none =>
    have free : ItemFree paragraph? html := by
      apply itemFree_of_absent _ (hasPart_eq_false_iff.2 opens)
      intro text value found
      obtain ⟨rest, rfl⟩ := exists_eq_of_paragraph? found
      exact hasPart_append "<p>".toList [] rest
    rw [firstItem?_of_itemFree free]
    rfl
  | some parts =>
    obtain ⟨before, rest⟩ := parts
    rw [firstItem?_of_cutAt? exists_eq_of_paragraph? opens]
    cases rest with
    | nil => rfl
    | cons c tail =>
      rw [firstItem?_at_opening]
      cases closes : cutAt? "</p>".toList tail with
      | none => simp only [closes, Option.map_none]
      | some parts =>
        simp only [closes]
        exact apply_ite (Option.map Entity.requote) ..

/-- A first paragraph with a text on one line gives the description. One with a line break is passed
over: the description is that of what follows its opening tag. Where the first paragraph is empty,
its closing tag is taken as the start of a text that goes on to the next closing tag. -/
theorem description_of_first_paragraph {html before rest content after : Text}
    (opens : cutAt? "<p>".toList html = some (before, rest))
    (closes : cutAt? "</p>".toList rest = some (content, after)) :
    (content ≠ [] → '\n' ∉ content →
      (detect html).description = some (Entity.requote content)) ∧
    (content ≠ [] → '\n' ∈ content → (detect html).description = (detect rest).description) ∧
    (content = [] → (detect html).description =
      match cutAt? "</p>".toList after with
      | none => none
      | some (more, _) =>
        if '\n' ∈ more then (detect rest).description
        else some (Entity.requote ("</p>".toList ++ more))) := by
  have nonempty : content ≠ [] → (detect html).description =
      if '\n' ∈ content then (detect rest).description else some (Entity.requote content) := by
    intro nonempty
    cases content with
    | nil => exact absurd rfl nonempty
    | cons c word =>
      obtain ⟨tail, rfl, later⟩ := exists_tail_of_cutAt? closes
      rw [description_eq, opens]
      simp only [later]
  refine ⟨?_, ?_, ?_⟩
  · intro some oneLine
    rw [nonempty some, if_neg oneLine]
  · intro some broken
    rw [nonempty some, if_pos broken]
  · rintro rfl
    have split : rest = '<' :: ("/p>".toList ++ after) := by simpa using eq_of_cutAt? closes
    have inert : Inert (dropLead? "</p>".toList) "/p>".toList := by decide
    rw [split] at opens ⊢
    rw [description_eq, opens]
    simp only [cutAt?_append_of_inert inert]
    cases cutAt? "</p>".toList after with
    | none => rfl
    | some parts => simp

/-- A tag with attributes opens no paragraph here, and the text of the first paragraph is requoted
with the markup in it. -/
theorem description_of_first_paragraph_with_markup :
    let html := "<h1>T</h1>\n<p class=\"x\">0</p><p>It&#39;s <b>1</b></p>\n<p>2</p>".toList
    let rest := "It&#39;s <b>1</b></p>\n<p>2</p>".toList
    let content := "It&#39;s <b>1</b>".toList
    cutAt? "<p>".toList html = some ("<h1>T</h1>\n<p class=\"x\">0</p>".toList, rest) ∧
      cutAt? "</p>".toList rest = some (content, "\n<p>2</p>".toList) ∧ content ≠ [] ∧
      '\n' ∉ content ∧
      (detect html).description = some "It&#39;s &lt;b&gt;1&lt;/b&gt;".toList := by
  intro html rest content
  have opens : cutAt? "<p>".toList html =
      some ("<h1>T</h1>\n<p class=\"x\">0</p>".toList, rest) := by decide +kernel
  have closes : cutAt? "</p>".toList rest = some (content, "\n<p>2</p>".toList) := by
    decide +kernel
  have nonempty : content ≠ [] := by decide
  have oneLine : '\n' ∉ content := by decide
  refine ⟨opens, closes, nonempty, oneLine, ?_⟩
  rw [(description_of_first_paragraph opens closes).1 nonempty oneLine]
  decide +kernel

/-- With a line break in the first paragraph the description is the text of the second one, and
after an empty paragraph it starts with the end of that paragraph. -/
theorem description_of_later_paragraph :
    let html := "<p>one\ntwo</p><p>three</p>".toList
    cutAt? "<p>".toList html = some ([], "one\ntwo</p><p>three</p>".toList) ∧
      cutAt? "</p>".toList "one\ntwo</p><p>three</p>".toList =
        some ("one\ntwo".toList, "<p>three</p>".toList) ∧
      Entity.requote "one\ntwo".toList = "one\ntwo".toList ∧
      (detect html).description = some "three".toList ∧
      (detect "<p></p><p>x</p>".toList).description = some "&lt;/p&gt;&lt;p&gt;x".toList := by
  decide +kernel

end Folio.Metadata
