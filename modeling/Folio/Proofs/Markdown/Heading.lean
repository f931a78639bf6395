import Folio.Proofs.Markdown.Word
import Folio.Proofs.Text.Run

/-!
# Headings of one line

A line that starts with up to six number signs and a space is a heading, and the rest of the line is
its text.
-/

namespace Folio.Markdown

variable {text content : Text} {level : Nat}

/-! ## Lines that start with a number sign -/

theorem Shape.rule?_sign (text : Text) : rule? ('#' :: text) = none := by
  simp [rule?]

theorem Shape.item?_sign (text : Text) : item? ('#' :: text) = none := by
  have noDigits : Text.run Char.isDigit ('#' :: text) = ([], '#' :: text) :=
    Text.run_cons_of_neg (by decide) text
  simp [item?, noDigits, Entity.number?]

theorem BlockState.item?_sign (text : Text) : BlockState.item? (.ofLine ('#' :: text)) = none := by
  have rest : (Cursor.ofLine ('#' :: text)).skipIndent.rest = '#' :: text := rfl
  simp only [BlockState.item?, rest, Shape.rule?_sign, Shape.item?_sign]
  rfl

theorem Verbatim.raw?_sign (containers : List Container) (text : Text) :
    raw? containers 0 0 ('#' :: text) = none := by
  rfl

/-- Number signs and a space start a heading. -/
theorem Shape.heading?_signs (positive : 1 ≤ level) (atMost : level ≤ 6) (text : Text) :
    heading? (List.replicate level '#' ++ ' ' :: text) = some (level, ' ' :: text) := by
  have signs : Text.run (· == '#') (List.replicate level '#' ++ ' ' :: text) =
      (List.replicate level '#', ' ' :: text) :=
    Text.run_append_cons (by simp) (by decide) text
  simp [heading?, signs, positive, atMost]
  decide

/-! ## The block that a heading line is -/

namespace BlockState

/-- A heading line at the start of a document is read as a heading. -/
theorem readText_heading (signs : Text)
    (found : Shape.heading? ('#' :: signs) = some (level, text)) :
    readText none ('#' :: signs) (.ofLine ('#' :: signs)) initial =
      initial.addRead (Paragraph.headingRest [] level text) := by
  have rest : (Cursor.ofLine ('#' :: signs)).skipIndent.rest = '#' :: signs := rfl
  have noIndent : (Cursor.ofLine ('#' :: signs)).indent = 0 := rfl
  have noContainers : initial.finishList.containers = [] := rfl
  rw [readText]
  simp only [rest, noIndent, noContainers]
  rw [if_neg (by decide)]
  simp only [Cursor.ofLine, Verbatim.raw?_sign, Shape.rule?_sign, found]
  rfl

theorem readBlock_heading (signs : Text)
    (found : Shape.heading? ('#' :: signs) = some (level, text)) :
    initial.readBlock ('#' :: signs) =
      ({ (initial.addRead (Paragraph.headingRest [] level text)).1 with previous := some '\n' },
        (Paragraph.headingRest [] level text).2) := by
  have noIndent : (Cursor.ofLine ('#' :: signs)).indent = 0 := rfl
  have entered : Container.enter (.ofLine ('#' :: signs)) initial.containers =
      (0, .ofLine ('#' :: signs)) := rfl
  have closed : initial.closeTo 0 = initial := rfl
  have opened : initial.readInside none ('#' :: signs) (('#' :: signs).length + 1)
      (.ofLine ('#' :: signs)) = readText none ('#' :: signs) (.ofLine ('#' :: signs)) initial := by
    rw [readInside, if_neg (by rw [noIndent]; decide), item?_sign]
    rfl
  rw [readBlock, entered]
  simp only
  rw [closed, show initial.previous = none from rfl, opened, readText_heading signs found]
  rfl

/-- A document of one heading line is one heading. -/
theorem ofText_heading (signs : Text) (found : Shape.heading? ('#' :: signs) = some (level, text))
    {block : Block Prose} (read : Paragraph.headingRest [] level text = (block, [])) :
    (ofText ('#' :: signs)).blocks = [block] ∧ (ofText ('#' :: signs)).definitions = [] := by
  have stops (fuel : Nat) (state : BlockState) : readBlocks fuel [] state = state := by
    cases fuel <;> rfl
  rw [ofText, List.length_cons, readBlocks, readBlock_heading signs found, read]
  simp only [stops]
  exact ⟨rfl, rfl⟩

end BlockState

/-! ## The text of a heading line -/

/-- The running text of a heading line. -/
def headingProse (content : Text) : Prose :=
  ⟨some ' ', [⟨[], content, []⟩], true, [], false⟩

/-- A text that ends with neither a space nor a number sign is the whole text of its heading. -/
theorem Shape.headingText_of_getLast? {last : Char} (isLast : content.getLast? = some last)
    (noSpace : last ≠ ' ') (noSign : last ≠ '#') : headingText content = content := by
  obtain ⟨front, rfl⟩ := List.getLast?_eq_some_iff.1 isLast
  have kept (c : Char) (differs : last ≠ c) :
      Text.dropRightWhile (· == c) (front ++ [last]) = front ++ [last] := by
    simp [Text.dropRightWhile, differs]
  simp [headingText, kept ' ' noSpace, kept '#' noSign]

/-- The rest of a heading line after its number signs. -/
theorem Paragraph.headingRest_line {first last : Char} (isFirst : content.head? = some first)
    (isLast : content.getLast? = some last) (noBlank : isLineBlank first = false)
    (noSpace : last ≠ ' ') (noSign : last ≠ '#') (oneLine : '\n' ∉ content ∧ '\r' ∉ content) :
    headingRest [] level (' ' :: content) = (.heading level none (headingProse content), []) := by
  have inLine : ∀ c ∈ ' ' :: content, (c != '\n' && c != '\r') = true := by
    intro c isIn
    rcases List.mem_cons.1 isIn with rfl | isContent
    · decide
    · have notNewline : c ≠ '\n' := fun same => oneLine.1 (same ▸ isContent)
      have notReturn : c ≠ '\r' := fun same => oneLine.2 (same ▸ isContent)
      simp [notNewline, notReturn]
  have cut : cutLine (' ' :: content) = (' ' :: content, [], []) := by
    rw [cutLine, Text.run_of_all inLine]
    rfl
  have blanks : Text.run isLineBlank (' ' :: content) = ([' '], content) := by
    cases content with
    | nil => cases isFirst
    | cons c content =>
      obtain rfl : c = first := Option.some.inj isFirst
      exact @Text.run_append_cons isLineBlank [' '] c (by decide) noBlank content
  rw [headingRest, cut]
  simp only [blanks, Shape.headingText_of_getLast? isLast noSpace noSign]
  simp [headingProse]

theorem Token.extendLast_zero (tokens : List Token) : extendLast 0 tokens = tokens := by
  fun_induction extendLast 0 tokens with
  | case1 => rfl
  | case2 token => rfl
  | case3 token rest notLast inductionHypothesis => rw [inductionHypothesis]

/-- A text that does not end with a blank has a token for everything in it. -/
theorem tokens_headingProse (smart : Bool) {last : Char} (isLast : content.getLast? = some last)
    (noBlank : isLineBlank last = false) :
    (headingProse content).tokens smart =
      Token.ofStretch smart false 0 content.length 0 true (some ' ') content := by
  obtain ⟨front, rfl⟩ := List.getLast?_eq_some_iff.1 isLast
  have allVisible : Text.dropRightWhile isLineBlank (front ++ [last]) = front ++ [last] := by
    simp [Text.dropRightWhile, noBlank]
  have noBlanks : (Text.run isLineBlank (front ++ [last]).reverse).1 = [] := by
    simp [Text.run, noBlank]
  have source : (headingProse (front ++ [last])).source = front ++ [last] := by
    simp [headingProse, Prose.source]
  rw [Prose.tokens]
  simp only [headingProse, List.getLast?_singleton, noBlanks, List.length_nil,
    Token.extendLast_zero] at source ⊢
  rw [source]
  simp [Token.ofLines, allVisible]

/-- Running text whose tokens are read on their own, and in which nothing is emphasized. -/
theorem inlines_headingProse {style : InlineStyle} {nodes : List Node} {last : Char}
    (isLast : content.getLast? = some last) (noBlank : isLineBlank last = false)
    (read : List.Forall₂ Token.IsReadAs
      (Token.ofStretch style.smart false 0 content.length 0 true (some ' ') content) nodes)
    (noMark : ∀ node ∈ nodes, node.isMark = false) (unpaired : Unpaired nodes) (allowance : Nat) :
    ((headingProse content).inlines style allowance).1 = nodes.flatMap Node.shown := by
  rw [Prose.inlines]
  simp only
  rw [tokens_headingProse style.smart isLast noBlank, readTokens_of_isReadAs read _ _ rfl]
  simp only [InlineState.initial, dissolveAll, List.foldl_nil, List.append_nil,
    List.reverse_reverse]
  exact settle_of_unpaired unpaired noMark

/-! ## Headings of words -/

/-- What ends a word ends neither a line nor a heading. -/
theorem isKeyChar_spec {c : Char} (inKey : isKeyChar c = true) :
    isLineBlank c = false ∧ c ≠ ' ' ∧ c ≠ '#' ∧ c ≠ '\n' ∧ c ≠ '\r' := by
  have differs {d : Char} (outside : isKeyChar d = false) : c ≠ d := ne_of_isKeyChar inKey outside
  refine ⟨?_, differs rfl, differs rfl, differs rfl, differs rfl⟩
  simp only [isLineBlank, Bool.or_eq_false_iff, beq_eq_false_iff_ne]
  exact ⟨⟨⟨differs rfl, differs rfl⟩, differs rfl⟩, differs rfl⟩

/-- The text of a heading whose last word is not emphasized, and which has no signs before that
word, is shown as it is. -/
theorem exists_inlines_headingProse (style : InlineStyle) {lead word : Text}
    (noSigns : ∀ c ∈ lead, isSign c = false) (nonempty : word ≠ [])
    (inWord : ∀ c ∈ word, isKeyChar c = true) (notEmphasized : ¬ IsEmphasized word)
    (allowance : Nat) :
    ∃ nodes, ((headingProse (lead ++ ' ' :: word)).inlines style allowance).1 =
      nodes.flatMap Node.shown ∧ Shows nodes (lead ++ ' ' :: word) := by
  have noSignsSpaced : ∀ c ∈ lead ++ [' '], isSign c = false := by
    rw [List.forall_mem_append]
    exact ⟨noSigns, by decide⟩
  obtain ⟨tokens, edge, stretch, read⟩ := Token.exists_ofStretch_append style.smart false
    noSignsSpaced word.length 0 true (some ' ') word
  have spaceBefore : (lead ++ [' ']).getLast?.or (some ' ') = some ' ' := by
    rw [List.getLast?_concat]
    rfl
  obtain ⟨nodes, readWord, shows, unpaired⟩ := exists_nodes_of_last_word style.smart inWord
    notEmphasized (0 + (lead ++ [' ']).length) edge
  rw [← spaceBefore] at readWord
  have readAll : List.Forall₂ Token.IsReadAs
      (Token.ofStretch style.smart false 0 (lead ++ ' ' :: word).length 0 true (some ' ')
        (lead ++ ' ' :: word))
      ((lead ++ [' ']).map (fun c => .done (.text [c])) ++ nodes) := by
    rw [List.append_cons, List.length_append, stretch]
    exact List.rel_append read readWord
  have showsAll := (shows_map (lead ++ [' '])).append shows
  rw [← List.append_cons] at showsAll
  have unpairedAll : Unpaired ((lead ++ [' ']).map (fun c => .done (.text [c])) ++ nodes) := by
    refine List.pairwise_append.2 ⟨?_, unpaired, ?_⟩
    · rw [List.pairwise_map]
      exact List.pairwise_of_forall fun _ _ opening => absurd opening Bool.false_ne_true
    · intro opener isLead closer _ opening
      obtain ⟨c, -, rfl⟩ := List.mem_map.1 isLead
      cases opening
  have isLast : (lead ++ ' ' :: word).getLast? = some (word.getLast nonempty) := by
    rw [List.getLast?_append_of_ne_nil _ (List.cons_ne_nil ' ' word), List.getLast?_cons,
      List.getLast?_eq_getLast_of_ne_nil nonempty, Option.getD_some]
  have noBlank := (isKeyChar_spec (inWord _ (List.getLast_mem nonempty))).1
  exact ⟨_, inlines_headingProse isLast noBlank readAll showsAll.noMark unpairedAll allowance,
    showsAll⟩

/-- A heading line whose last word is not emphasized, and which has no signs before that word,
becomes a heading with the same text. -/
theorem Converter.convert_heading (converter : Converter) {lead word : Text}
    (positive : 1 ≤ level) (atMost : level ≤ 6) {first : Char} (isFirst : lead.head? = some first)
    (noBlank : isLineBlank first = false) (noSigns : ∀ c ∈ lead, isSign c = false)
    (oneLine : '\n' ∉ lead ∧ '\r' ∉ lead) (nonempty : word ≠ [])
    (inWord : ∀ c ∈ word, isKeyChar c = true) (notEmphasized : ¬ IsEmphasized word) :
    converter.convert (List.replicate level '#' ++ ' ' :: (lead ++ ' ' :: word)) =
      "<h".toList ++ Text.ofNat level ++ ">".toList ++ Html.body (lead ++ ' ' :: word) ++
        "</h".toList ++ Text.ofNat level ++ ">\n".toList := by
  have isLast : (lead ++ ' ' :: word).getLast? = some (word.getLast nonempty) := by
    rw [List.getLast?_append_of_ne_nil _ (List.cons_ne_nil ' ' word), List.getLast?_cons,
      List.getLast?_eq_getLast_of_ne_nil nonempty, Option.getD_some]
  obtain ⟨-, noSpace, noNumberSign, -, -⟩ := isKeyChar_spec (inWord _ (List.getLast_mem nonempty))
  have head : (lead ++ ' ' :: word).head? = some first := by
    rw [List.head?_append, isFirst]
    rfl
  have contentOneLine : '\n' ∉ lead ++ ' ' :: word ∧ '\r' ∉ lead ++ ' ' :: word := by
    simp only [List.mem_append, List.mem_cons, not_or]
    refine ⟨⟨oneLine.1, by decide, ?_⟩, ⟨oneLine.2, by decide, ?_⟩⟩
    · exact fun isIn => (isKeyChar_spec (inWord _ isIn)).2.2.2.1 rfl
    · exact fun isIn => (isKeyChar_spec (inWord _ isIn)).2.2.2.2 rfl
  obtain ⟨count, rfl⟩ := Nat.exists_eq_add_of_le' positive
  have found := Shape.heading?_signs positive atMost (lead ++ ' ' :: word)
  rw [List.replicate_succ, List.cons_append] at found ⊢
  obtain ⟨blocks, definitions⟩ := BlockState.ofText_heading _ found
    (Paragraph.headingRest_line head isLast noBlank noSpace noNumberSign contentOneLine)
  obtain ⟨nodes, shown, shows⟩ := exists_inlines_headingProse ⟨converter.smart, []⟩ noSigns
    nonempty inWord notEmphasized
      (allowance ('#' :: (List.replicate count '#' ++ ' ' :: (lead ++ ' ' :: word))))
  have blocksRead : document converter.smart
      ('#' :: (List.replicate count '#' ++ ' ' :: (lead ++ ' ' :: word))) =
        [.heading (count + 1) none (nodes.flatMap Node.shown)] := by
    rw [document]
    simp only [blocks, definitions]
    rw [← shown]
    rfl
  have written : converter.convert
      ('#' :: (List.replicate count '#' ++ ' ' :: (lead ++ ' ' :: word))) =
        "<h".toList ++ Text.ofNat (count + 1) ++ ">".toList ++ [] ++
          Html.inlineAll converter.sanitize (nodes.flatMap Node.shown) ++ "</h".toList ++
            Text.ofNat (count + 1) ++ ">\n".toList ++ [] := by
    rw [convert, blocksRead]
    rfl
  rw [written, shows.html, List.append_nil, List.append_nil]

end Folio.Markdown
