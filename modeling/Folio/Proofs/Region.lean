import Folio.Proofs.Text.Mark
import Folio.Proofs.Text.Run
import Folio.Region

/-!
# Asides in a page and their registers

An aside is a begin mark with a name, a content and the first end mark after it. Reading a page
for asides never goes across an end mark: whatever a text holds, once it ends with an end mark the
text and what follows it are read apart. This is what makes the regions of a page that was put
together from parts predictable.

The registers are then the names in order of their first use, each with all of its contents.
-/

namespace Folio

namespace AsideSpan

open Text

/-! ## Begin marks -/

/-- What a begin mark starts with. -/
def beginLead : Text := "<!-- BEGIN-ASIDE ".toList

/-- What a begin mark ends with. -/
def beginClose : Text := " -->".toList

theorem asideBegin_eq (name : Text) : asideBegin name = beginLead ++ name ++ beginClose := by
  unfold asideBegin beginLead beginClose
  exact Eq.refl _

theorem beginLead_eq : beginLead = '<' :: "!-- BEGIN-ASIDE ".toList := by
  unfold beginLead
  simp

theorem beginClose_append (rest : Text) : beginClose ++ rest = ' ' :: ("-->".toList ++ rest) := by
  unfold beginClose
  simp

/-- Recognises the name in a begin mark, after its lead. -/
def markName? (text : Text) : Option (Text × Text) :=
  match run (fun c => !Unicode.isBlank c) text with
  | ([], _) => none
  | (name, text) => (dropLead? beginClose text).map (name, ·)

/-- Recognises a begin mark and gives the name in it. -/
def begin? (text : Text) : Option (Text × Text) :=
  (dropLead? beginLead text).bind markName?

/-- An aside is a begin mark and everything up to the first end mark. -/
theorem span?_eq_begin? (text : Text) :
    span? text = (begin? text).bind fun (name, text) =>
      (cutAt? asideEnd text).map fun (content, after) => (⟨name, content⟩, after) := by
  rw [begin?, Option.bind_assoc]
  unfold span?
  rw [Option.bind_eq_bind]
  congr 1
  funext text
  unfold markName?
  cases run (fun c => !Unicode.isBlank c) text with
  | mk name rest =>
    cases name with
    | nil => rfl
    | cons c name =>
      simp only [Option.bind_eq_bind, Option.bind_map]
      congr 1
      funext text
      simp only [Function.comp]
      cases cutAt? asideEnd text <;> rfl

/-- A begin mark gives back the name that it was made with. -/
theorem begin?_asideBegin {name : Text} (nonempty : name ≠ [])
    (noBlank : ∀ c ∈ name, Unicode.isBlank c = false) (rest : Text) :
    begin? (asideBegin name ++ rest) = some (name, rest) := by
  have lead : dropLead? beginLead (asideBegin name ++ rest) = some (name ++ (beginClose ++ rest)) :=
    dropLead?_eq_some_iff.2 (by simp [asideBegin_eq])
  have named : run (fun c => !Unicode.isBlank c) (name ++ (beginClose ++ rest)) =
      (name, beginClose ++ rest) := by
    rw [run_append_of_all (by simpa using noBlank), beginClose_append,
      run_cons_of_neg (by decide), List.append_nil]
  have close : dropLead? beginClose (beginClose ++ rest) = some rest :=
    dropLead?_eq_some_iff.2 rfl
  rw [begin?, lead, Option.bind_some, markName?, named]
  cases name with
  | nil => exact absurd rfl nonempty
  | cons c name => simp [close]

/-- A comment that does not close right away: after `<!--` and a space there is no arrow. -/
def StartsComment (text : Text) : Prop :=
  ∃ d rest, d ≠ '-' ∧ text = ['<', '!', '-', '-'] ++ ' ' :: d :: rest

theorem startsComment_asideEnd (rest : Text) : StartsComment (asideEnd ++ rest) :=
  ⟨'E', "ND-ASIDE -->".toList ++ rest, by decide, by unfold asideEnd; simp⟩

/-- The name in a begin mark never reaches into a comment. -/
theorem markName?_append_comment {comment : Text} (isComment : StartsComment comment)
    (text : Text) :
    markName? (text ++ comment) =
      (markName? text).map fun (name, after) => (name, after ++ comment) := by
  obtain ⟨e, rest, notArrow, rfl⟩ := isComment
  rcases all_or_first_outside (fun c => !Unicode.isBlank c) text with
    all | ⟨word, c, more, rfl, all, blank⟩
  · -- Without a space in `text` the name goes on to the space of the comment.
    have missed : markName? text = none := by
      rw [markName?, run_of_all all]
      cases text <;> rfl
    have solid : ∀ c ∈ text ++ ['<', '!', '-', '-'], (!Unicode.isBlank c) = true := by
      intro c member
      rcases List.mem_append.1 member with inText | inComment
      · exact all c inText
      · have commentSolid : ∀ c ∈ ['<', '!', '-', '-'], (!Unicode.isBlank c) = true :=
          List.all_eq_true.1 (by decide)
        exact commentSolid c inComment
    have noClose : dropLead? beginClose (' ' :: e :: rest) = none := by
      have close : beginClose = ' ' :: '-' :: "->".toList := by
        unfold beginClose
        simp
      rw [close, dropLead?_cons_cons, if_pos rfl, dropLead?_cons_cons, if_neg (Ne.symm notArrow)]
    rw [missed, ← List.append_assoc, markName?, run_append_of_all solid,
      run_cons_of_neg (by decide), List.append_nil]
    cases text <;> exact congrArg (Option.map _) noClose
  · rw [List.append_assoc, List.cons_append, markName?, run_append_of_all all,
      run_cons_of_neg blank, markName?, run_append_of_all all, run_cons_of_neg blank]
    cases word with
    | nil => rfl
    | cons d word =>
      have arrow : '<' ∉ beginClose := by decide
      have close := dropLead?_append_cons arrow (c :: more) ('!' :: '-' :: '-' :: ' ' :: e :: rest)
      simp only [List.cons_append] at close
      simp only [List.append_nil, List.cons_append, List.nil_append, close, Option.map_map]
      rfl

/-- A begin mark never reaches into a comment. -/
theorem begin?_append_comment {comment : Text} (isComment : StartsComment comment) (c : Char)
    (text : Text) :
    begin? (c :: text ++ comment) =
      (begin? (c :: text)).map fun (name, after) => (name, after ++ comment) := by
  have lead : dropLead? beginLead (c :: text ++ comment) =
      (dropLead? beginLead (c :: text)).map (· ++ comment) := by
    obtain ⟨d, rest, -, rfl⟩ := isComment
    have once : '<' ∉ "!-- BEGIN-ASIDE ".toList := by decide
    rw [beginLead_eq]
    exact dropLead?_cons_append_cons once c text _
  rw [begin?, lead, begin?, Option.bind_map, Option.map_bind]
  congr 1
  funext text
  exact markName?_append_comment isComment text

theorem exists_append_of_begin? {text name after : Text}
    (found : begin? text = some (name, after)) :
    ∃ mark, text = beginLead ++ mark ++ after := by
  simp only [begin?, Option.bind_eq_some_iff, markName?] at found
  obtain ⟨inside, lead, found⟩ := found
  rw [dropLead?_eq_some_iff.1 lead]
  have whole := run_append (fun c => !Unicode.isBlank c) inside
  split at found
  · simp at found
  · next word rest _ named =>
    rw [named] at whole
    simp only [Option.map_eq_some_iff, Prod.mk.injEq] at found
    obtain ⟨tail, close, rfl, rfl⟩ := found
    refine ⟨word ++ beginClose, ?_⟩
    rw [← whole, dropLead?_eq_some_iff.1 close]
    simp

/-! ## Asides -/

theorem asideEnd_eq : asideEnd = '<' :: "!-- END-ASIDE -->".toList := by
  unfold asideEnd
  simp

theorem asideEnd_ne_nil : asideEnd ≠ [] := by
  rw [asideEnd_eq]
  exact List.cons_ne_nil _ _

theorem cutAt?_append_asideEnd (text rest : Text) :
    cutAt? asideEnd (text ++ (asideEnd ++ rest)) =
      match cutAt? asideEnd text with
      | some (content, after) => some (content, after ++ (asideEnd ++ rest))
      | none => some (text, rest) := by
  have once : '<' ∉ "!-- END-ASIDE -->".toList := by decide
  have found := cutAt?_mark_append asideEnd_ne_nil rest
  rw [asideEnd_eq] at found ⊢
  rw [List.cons_append, cutAt?_append_cons once, ← List.cons_append, found]
  cases cutAt? _ text with
  | some parts => rfl
  | none => simp

/-- A begin mark, a content without an end mark and an end mark read as one aside. -/
theorem readsAs_span {name content : Text} (nonempty : name ≠ [])
    (noBlank : ∀ c ∈ name, Unicode.isBlank c = false)
    (noEnd : hasPart asideEnd content = false) :
    ReadsAs span? (asideBegin name ++ content ++ asideEnd) ⟨name, content⟩ := by
  constructor
  · rw [asideBegin_eq, beginLead_eq]
    simp
  · intro rest
    have cut := cutAt?_append_asideEnd content rest
    rw [hasPart_eq_false_iff.1 noEnd] at cut
    rw [span?_eq_begin?, List.append_assoc, List.append_assoc,
      begin?_asideBegin nonempty noBlank]
    simp [cut]

theorem exists_append_of_span? {text after : Text} {span : AsideSpan}
    (found : span? text = some (span, after)) :
    ∃ mark, text = beginLead ++ mark ++ asideEnd ++ after := by
  rw [span?_eq_begin?] at found
  simp only [Option.bind_eq_some_iff, Option.map_eq_some_iff, Prod.mk.injEq] at found
  obtain ⟨⟨name, inside⟩, begins, ⟨content, tail⟩, cut, rfl, rfl⟩ := found
  obtain ⟨mark, rfl⟩ := exists_append_of_begin? begins
  have split : inside = content ++ asideEnd ++ tail := eq_of_cutAt? cut
  exact ⟨mark ++ content, by simp [split]⟩

theorem inert_span? {text : Text} (inert : Inert (dropLead? beginLead) text) :
    Inert span? text := by
  refine inert.of_lead ?_
  rintro text ⟨span, after⟩ found
  obtain ⟨mark, rfl⟩ := exists_append_of_span? found
  exact ⟨mark ++ asideEnd ++ after, by simp⟩

theorem inert_asideEnd : Inert span? asideEnd := by
  apply inert_span?
  rw [beginLead_eq, asideEnd_eq]
  refine inert_cons.2 ⟨?_, inert_of_not_mem (by decide)⟩
  intro rest
  simp

/-- A text without an end mark holds no aside. -/
theorem itemFree_of_noEnd {text : Text} (noEnd : hasPart asideEnd text = false) :
    ItemFree span? text := by
  refine itemFree_of_absent ?_ noEnd
  rintro text ⟨span, after⟩ found
  obtain ⟨mark, split⟩ := exists_append_of_span? found
  exact hasPart_iff.2 ⟨beginLead ++ mark, after, split⟩

/-- A text without an end mark is read as plain characters. -/
theorem pieces_of_noEnd {text : Text} (noEnd : hasPart asideEnd text = false) :
    pieces span? text = text.map Piece.plain :=
  pieces_of_itemFree (itemFree_of_noEnd noEnd)

/-- An aside never reaches across an end mark: whatever follows the end mark, no aside starts at
the start of the text, or the same one does and ends in the text or with the end mark. -/
theorem span?_append_asideEnd (c : Char) (text : Text) :
    (∀ rest, span? (c :: text ++ asideEnd ++ rest) = none) ∨
      ∃ span taken left, taken ≠ [] ∧ c :: text ++ asideEnd = taken ++ left ∧
        (left = [] ∨ ∃ shorter, left = shorter ++ asideEnd) ∧
        ∀ rest, span? (taken ++ (left ++ rest)) = some (span, left ++ rest) := by
  have begins rest := begin?_append_comment (startsComment_asideEnd rest) c text
  cases found : begin? (c :: text) with
  | none =>
    left
    intro rest
    rw [List.append_assoc, span?_eq_begin?, begins, found]
    rfl
  | some parts =>
    right
    obtain ⟨name, inside⟩ := parts
    obtain ⟨mark, split⟩ := exists_append_of_begin? found
    have marked : beginLead ≠ [] := by
      rw [beginLead_eq]
      exact List.cons_ne_nil _ _
    have reads rest : span? (c :: text ++ (asideEnd ++ rest)) =
        (cutAt? asideEnd (inside ++ (asideEnd ++ rest))).map fun (content, after) =>
          (⟨name, content⟩, after) := by
      rw [span?_eq_begin?, begins, found]
      rfl
    rw [split] at reads ⊢
    cases cut : cutAt? asideEnd inside with
    | none =>
      refine ⟨⟨name, inside⟩, beginLead ++ mark ++ inside ++ asideEnd, [], by simp [marked],
        by simp, .inl rfl, ?_⟩
      intro rest
      have ended := cutAt?_append_asideEnd inside rest
      rw [cut] at ended
      rw [List.nil_append, List.append_assoc (_ ++ inside), reads, ended]
      rfl
    | some parts =>
      obtain ⟨content, after⟩ := parts
      have inner : inside = content ++ asideEnd ++ after := eq_of_cutAt? cut
      refine ⟨⟨name, content⟩, beginLead ++ mark ++ (content ++ asideEnd), after ++ asideEnd,
        by simp [marked], by simp [inner], .inr ⟨after, rfl⟩, ?_⟩
      intro rest
      have ended := cutAt?_append_asideEnd inside rest
      rw [cut] at ended
      have shape : beginLead ++ mark ++ (content ++ asideEnd) ++ (after ++ asideEnd ++ rest) =
          beginLead ++ mark ++ inside ++ (asideEnd ++ rest) := by simp [inner]
      rw [shape, reads, ended, List.append_assoc]
      rfl

/-- A text that ends with an end mark is read apart from what follows it. -/
theorem pieces_append_asideEnd (text rest : Text) :
    pieces span? (text ++ asideEnd ++ rest) =
      pieces span? (text ++ asideEnd) ++ pieces span? rest := by
  induction length : text.length using Nat.strongRecOn generalizing text with
  | ind size inductionHypothesis =>
    cases text with
    | nil =>
      have alone := pieces_append_of_inert inert_asideEnd []
      rw [List.append_nil, pieces_nil, List.append_nil] at alone
      rw [List.nil_append, pieces_append_of_inert inert_asideEnd, alone]
    | cons c text =>
      rcases span?_append_asideEnd c text with missed | ⟨span, taken, left, nonempty, split, isEnd,
        found⟩
      · have alone := missed []
        rw [List.append_nil] at alone
        have shorter := inductionHypothesis text.length (by simp [← length]) text rfl
        simp only [List.cons_append] at missed alone ⊢
        rw [pieces_cons_of_none (missed rest), pieces_cons_of_none alone, shorter]
        rfl
      · have alone := found []
        rw [List.append_nil] at alone
        rw [split, List.append_assoc, pieces_append_of_some nonempty (found rest),
          pieces_append_of_some nonempty alone]
        rcases isEnd with rfl | ⟨shorter, rfl⟩
        · rfl
        · have size_lt : shorter.length < size := by
            have sizes := congrArg List.length split
            have := List.length_pos_iff.2 nonempty
            simp only [List.length_append, List.length_cons] at sizes length
            omega
          rw [inductionHypothesis _ size_lt shorter rfl]
          rfl

end AsideSpan

end Folio
