import Folio.Proofs.BareLink
import Mathlib.Data.List.Forall2

/-!
# Links line by line, and links in a text

Bare links are replaced line by line. The same comes out of a search through the whole text, from
left to right, for a stretch that is a bare link and reaches from a place where a line starts to a
place where one ends. Such a stretch lies in one line and fills it, and what it is replaced by is
not searched again.
-/

namespace Folio

/-! ## One line -/

/-- A text that holds a link, given without its scheme, and else only spaces and tabs around it. -/
inductive IsBareLink : Text → Text → Prop
  | intro {lead scheme link trail : Text} (leadPadding : ∀ c ∈ lead, c = ' ' ∨ c = '\t')
      (isScheme : scheme = "http://".toList ∨ scheme = "https://".toList) (nonempty : link ≠ [])
      (visible : ∀ c ∈ link, Unicode.isBlank c = false)
      (trailPadding : ∀ c ∈ trail, c = ' ' ∨ c = '\t') :
      IsBareLink (lead ++ scheme ++ link ++ trail) link

theorem isLinkPadding_iff {c : Char} : isLinkPadding c = true ↔ c = ' ' ∨ c = '\t' := by
  simp [isLinkPadding]

theorem isBlank_of_isPadding {c : Char} (isPadding : c = ' ' ∨ c = '\t') :
    Unicode.isBlank c = true := by
  rcases isPadding with rfl | rfl <;> decide

theorem dropScheme?_eq_some_iff {text rest : Text} :
    dropScheme? text = some rest ↔
      text = "http://".toList ++ rest ∨ text = "https://".toList ++ rest := by
  constructor
  · intro found
    rw [dropScheme?] at found
    split at found
    · next after plain =>
      obtain rfl := Option.some.inj found
      exact .inl (Text.dropLead?_eq_some_iff.1 plain)
    · exact .inr (Text.dropLead?_eq_some_iff.1 found)
  · rintro (rfl | rfl)
    · rw [dropScheme?, Text.dropLead?_eq_some_iff.2 rfl]
    · simp [dropScheme?]

/-- The reader of bare links finds the link of a bare link and nothing else. -/
theorem bareLink?_eq_some_iff {content link : Text} :
    bareLink? content = some link ↔ IsBareLink content link := by
  constructor
  · intro found
    simp only [bareLink?, Option.bind_eq_bind, Option.bind_eq_some_iff] at found
    obtain ⟨rest, schemed, found⟩ := found
    split at found
    · cases found
    · next word trail nonempty read =>
      split_ifs at found with isTrail
      obtain rfl := Option.some.inj found
      obtain ⟨rfl, visible⟩ := Text.eq_append_of_run read
      have padded := @List.takeWhile_append_dropWhile _ isLinkPadding content
      have leadPadding : ∀ c ∈ content.takeWhile isLinkPadding, c = ' ' ∨ c = '\t' :=
        fun c member => isLinkPadding_iff.1 (List.all_eq_true.1 List.all_takeWhile c member)
      have trailPadding : ∀ c ∈ trail, c = ' ' ∨ c = '\t' :=
        fun c member => isLinkPadding_iff.1 (List.all_eq_true.1 isTrail c member)
      have solid : ∀ c ∈ word, Unicode.isBlank c = false :=
        fun c member => by simpa using visible c member
      rcases dropScheme?_eq_some_iff.1 schemed with plain | secure
      · have split := IsBareLink.intro leadPadding (.inl rfl) nonempty solid trailPadding
        rwa [List.append_assoc, List.append_assoc, ← plain, padded] at split
      · have split := IsBareLink.intro leadPadding (.inr rfl) nonempty solid trailPadding
        rwa [List.append_assoc, List.append_assoc, ← secure, padded] at split
  · rintro ⟨leadPadding, isScheme, nonempty, visible, trailPadding⟩
    next lead scheme trail =>
    have spaced : (lead ++ (scheme ++ (link ++ trail))).dropWhile isLinkPadding =
        scheme ++ (link ++ trail) := by
      rw [List.dropWhile_append_of_pos fun c member => isLinkPadding_iff.2 (leadPadding c member)]
      rcases isScheme with rfl | rfl <;> rfl
    have schemed : dropScheme? (scheme ++ (link ++ trail)) = some (link ++ trail) :=
      dropScheme?_eq_some_iff.2 (isScheme.imp (congrArg (· ++ _)) (congrArg (· ++ _)))
    have read : Text.run (fun c => !Unicode.isBlank c) (link ++ trail) = (link, trail) := by
      have solid : ∀ c ∈ link, (!Unicode.isBlank c) = true := by simpa using visible
      cases trail with
      | nil => rw [List.append_nil, Text.run_of_all solid]
      | cons c trail =>
        have blank := isBlank_of_isPadding (trailPadding c List.mem_cons_self)
        exact Text.run_append_cons solid (by simp [blank]) trail
    have isTrail : trail.all isLinkPadding = true :=
      List.all_eq_true.2 fun c member => isLinkPadding_iff.2 (trailPadding c member)
    rw [List.append_assoc, List.append_assoc, bareLink?, spaced, schemed]
    simp only [Option.bind_eq_bind, Option.bind_some, read]
    cases link with
    | nil => exact absurd rfl nonempty
    | cons c link => simp only [isTrail, if_true]

/-- A bare link is not empty and lies in one line. -/
theorem IsBareLink.ne_nil_and_oneLine {content link : Text} (isLink : IsBareLink content link) :
    content ≠ [] ∧ content.OneLine := by
  obtain @⟨_, scheme, _, _, leadPadding, isScheme, nonempty, visible, trailPadding⟩ := isLink
  have paddingOneLine {padding : Text} (isPadding : ∀ c ∈ padding, c = ' ' ∨ c = '\t') :
      padding.OneLine := by
    intro c member
    rcases isPadding c member with rfl | rfl <;> decide
  constructor
  · simp [nonempty]
  · have schemeOneLine : scheme.OneLine := by
      rcases isScheme with rfl | rfl <;> decide
    exact (((paddingOneLine leadPadding).append schemeOneLine).append
      (Text.oneLine_of_visible visible)).append (paddingOneLine trailPadding)

/-- What becomes of a bare link: the command of the first rule that fits the link, or without such a
rule the line as it is. -/
inductive LinkBecomes (rules : List LinkRule) (content link : Text) : Text → Prop
  | command {before after : List LinkRule} {rule : LinkRule} {captures : Captures}
      (inOrder : rules = before ++ rule :: after)
      (noneBefore : ∀ other ∈ before, other.captures? link = none)
      (fits : rule.captures? link = some captures) :
      LinkBecomes rules content link (LinkRule.expandWith captures rule.command)
  | kept (noRule : ∀ rule ∈ rules, rule.captures? link = none) :
      LinkBecomes rules content link content

theorem expand?_eq_none_iff {rule : LinkRule} {link : Text} :
    rule.expand? link = none ↔ rule.captures? link = none :=
  Option.map_eq_none_iff

theorem linkBecomes_iff {rules : List LinkRule} {content link result : Text} :
    LinkBecomes rules content link result ↔
      result = (firstExpansion? rules link).getD content := by
  constructor
  · intro becomes
    cases becomes with
    | command inOrder noneBefore fits =>
      next before after rule captures =>
      have expands : rule.expand? link = some (LinkRule.expandWith captures rule.command) := by
        rw [LinkRule.expand?, fits]
        rfl
      have first : firstExpansion? rules link =
          some (LinkRule.expandWith captures rule.command) :=
        List.findSome?_eq_some_iff.2 ⟨before, rule, after, inOrder, expands,
          fun other member => expand?_eq_none_iff.2 (noneBefore other member)⟩
      rw [first, Option.getD_some]
    | kept noRule =>
      have none : firstExpansion? rules link = none :=
        List.findSome?_eq_none_iff.2 fun rule member => expand?_eq_none_iff.2 (noRule rule member)
      rw [none, Option.getD_none]
  · rintro rfl
    cases first : firstExpansion? rules link with
    | none =>
      exact .kept fun rule member =>
        expand?_eq_none_iff.1 (List.findSome?_eq_none_iff.1 first rule member)
    | some command =>
      obtain ⟨before, rule, after, inOrder, expands, noneBefore⟩ :=
        List.findSome?_eq_some_iff.1 first
      obtain ⟨captures, fits, rfl⟩ := Option.map_eq_some_iff.1 expands
      exact .command inOrder (fun other member => expand?_eq_none_iff.1 (noneBefore other member))
        fits

/-- What becomes of a line. Its ending is kept. -/
inductive LineBecomes (rules : List LinkRule) : Line → Line → Prop
  | link {content link result ending : Text} (isLink : IsBareLink content link)
      (becomes : LinkBecomes rules content link result) :
      LineBecomes rules ⟨content, ending⟩ ⟨result, ending⟩
  | other {content ending : Text} (noLink : ∀ link, ¬ IsBareLink content link) :
      LineBecomes rules ⟨content, ending⟩ ⟨content, ending⟩

theorem normalizeLine_of_isBareLink {content link : Text} (isLink : IsBareLink content link)
    (rules : List LinkRule) :
    normalizeLine rules content = (firstExpansion? rules link).getD content := by
  rw [normalizeLine, bareLink?_eq_some_iff.2 isLink, Option.bind_some]

theorem normalizeLine_of_other {content : Text} (noLink : ∀ link, ¬ IsBareLink content link)
    (rules : List LinkRule) : normalizeLine rules content = content := by
  have missed : bareLink? content = none := by
    rw [Option.eq_none_iff_forall_ne_some]
    exact fun link found => noLink link (bareLink?_eq_some_iff.1 found)
  rw [normalizeLine, missed, Option.bind_none, Option.getD_none]

theorem lineBecomes_iff {rules : List LinkRule} {line result : Line} :
    LineBecomes rules line result ↔
      { line with content := normalizeLine rules line.content } = result := by
  obtain ⟨content, ending⟩ := line
  constructor
  · intro becomes
    cases becomes with
    | link isLink becomes =>
      rw [linkBecomes_iff.1 becomes, normalizeLine_of_isBareLink isLink]
    | other noLink => rw [normalizeLine_of_other noLink]
  · rintro rfl
    by_cases holdsLink : ∃ link, IsBareLink content link
    · obtain ⟨link, isLink⟩ := holdsLink
      exact .link isLink (linkBecomes_iff.2 (normalizeLine_of_isBareLink isLink rules))
    · have noLink := not_exists.1 holdsLink
      simp only [normalizeLine_of_other noLink]
      exact .other noLink

/-! ## All lines -/

theorem normalizeLinks_append_ending (rules : List LinkRule) {content ending rest : Text}
    (oneLine : content.OneLine) (isEnding : IsLineEnding ending)
    (endsBefore : EndsBefore ending rest) :
    normalizeLinks rules (content ++ ending ++ rest) =
      normalizeLine rules content ++ ending ++ normalizeLinks rules rest := by
  rw [normalizeLinks, Text.lines_append_ending oneLine isEnding endsBefore]
  rfl

/-- A newline parts a source, also if the source before it ends with a carriage return. -/
theorem normalizeLinks_append_newline (rules : List LinkRule) (source rest : Text) :
    normalizeLinks rules (source ++ '\n' :: rest) =
      normalizeLinks rules source ++ '\n' :: normalizeLinks rules rest := by
  have areLines := Text.areLines_lines source
  rw [← Text.ofLines_lines source]
  generalize Text.lines source = rows at areLines
  induction areLines with
  | nil => rfl
  | last nonempty oneLine =>
    next content =>
    have whole := normalizeLinks_append_ending rules oneLine .newline
      (show EndsBefore ['\n'] rest from fun same => by cases same)
    have alone := normalizeLinks_of_oneLine rules nonempty oneLine
    rw [List.append_assoc, List.append_assoc, List.singleton_append, List.singleton_append] at whole
    rw [Text.ofLines_last, whole, alone]
  | cons oneLine isEnding endsBefore later inductionHypothesis =>
    next content ending rows =>
    rw [Text.ofLines_cons, normalizeLinks_append_ending rules oneLine isEnding endsBefore]
    by_cases joins : ending = ['\r'] ∧ Text.ofLines rows = []
    · -- The carriage return and the newline are one ending.
      obtain ⟨rfl, noMore⟩ := joins
      have whole := normalizeLinks_append_ending rules oneLine .pair
        (show EndsBefore ['\r', '\n'] rest from fun same => by cases same)
      rw [noMore]
      simpa [normalizeLinks, Text.lines, Text.ofLines] using whole
    · have stillBefore : EndsBefore ending (Text.ofLines rows ++ '\n' :: rest) := by
        intro isReturn
        have more : Text.ofLines rows ≠ [] := fun noMore => joins ⟨isReturn, noMore⟩
        rw [List.head?_append_of_ne_nil _ more]
        exact endsBefore isReturn
      rw [List.append_assoc, normalizeLinks_append_ending rules oneLine isEnding stillBefore,
        inductionHypothesis, List.append_assoc _ (normalizeLinks rules _)]

/-! ## The whole text -/

/-- A line starts between two texts: at the start of the whole, after a newline, and after a
carriage return that no newline follows. -/
def LineStartsAt (before after : Text) : Prop :=
  before = [] ∨ before.getLast? = some '\n' ∨
    before.getLast? = some '\r' ∧ after.head? ≠ some '\n'

/-- A line ends between two texts: at the end of the whole, before a carriage return, and before a
newline that no carriage return precedes. -/
def LineEndsAt (before after : Text) : Prop :=
  after = [] ∨ after.head? = some '\r' ∨
    after.head? = some '\n' ∧ before.getLast? ≠ some '\r'

/-- What a search through a text makes of it, where `before` is the part that is behind the search.
A stretch that is a bare link from the start of a line to the end of one is replaced and the search
goes on after it; where there is none, a character is passed over. -/
inductive Rewritten (rules : List LinkRule) : (before text result : Text) → Prop
  | done {before : Text} : Rewritten rules before [] []
  | found {before content link rest replaced result : Text}
      (starts : LineStartsAt before (content ++ rest)) (isLink : IsBareLink content link)
      (ends : LineEndsAt (before ++ content) rest)
      (becomes : LinkBecomes rules content link replaced)
      (later : Rewritten rules (before ++ content) rest result) :
      Rewritten rules before (content ++ rest) (replaced ++ result)
  | passed {before : Text} {c : Char} {text result : Text}
      (missed : ∀ content link rest, c :: text = content ++ rest →
        LineStartsAt before (c :: text) → IsBareLink content link →
        ¬ LineEndsAt (before ++ content) rest)
      (later : Rewritten rules (before ++ [c]) text result) :
      Rewritten rules before (c :: text) (c :: result)

theorem LineEndsAt.atLineEnd {before after : Text} (ends : LineEndsAt before after) :
    AtLineEnd after := by
  intro c isHead
  rcases ends with rfl | isReturn | ⟨isNewline, -⟩
  · cases isHead
  · exact .inr (Option.some.inj (isHead.symm.trans isReturn))
  · exact .inl (Option.some.inj (isHead.symm.trans isNewline))

/-- A line ends after a part of it that reaches to its end and is not empty. -/
theorem lineEndsAt_of_oneLine {content rest : Text} (nonempty : content ≠ [])
    (oneLine : content.OneLine) (ends : AtLineEnd rest) (before : Text) :
    LineEndsAt (before ++ content) rest := by
  cases rest with
  | nil => exact .inl rfl
  | cons c rest =>
    rcases ends c rfl with rfl | rfl
    · refine .inr (.inr ⟨rfl, ?_⟩)
      rw [List.getLast?_append_of_ne_nil _ nonempty]
      intro isReturn
      exact (oneLine _ (List.mem_of_getLast? isReturn)).2 rfl
    · exact .inr (.inl rfl)

namespace Rewritten

variable {rules : List LinkRule}

/-- Inside of a line nothing is found, since no line starts there. -/
theorem inside {before content rest result : Text}
    (inLine : ∃ c, before.getLast? = some c ∧ c ≠ '\n' ∧ c ≠ '\r') (oneLine : content.OneLine)
    (later : Rewritten rules (before ++ content) rest result) :
    Rewritten rules before (content ++ rest) (content ++ result) := by
  induction content generalizing before with
  | nil => rwa [List.append_nil] at later
  | cons d content inductionHypothesis =>
    obtain ⟨isChar, oneLine⟩ := List.forall_mem_cons.1 oneLine
    rw [List.append_cons] at later
    refine .passed ?_ (inductionHypothesis ⟨d, List.getLast?_concat, isChar⟩ oneLine later)
    rintro _ _ _ _ starts
    obtain ⟨c, isLast, notNewline, notReturn⟩ := inLine
    rcases starts with rfl | isNewline | ⟨isReturn, -⟩
    · cases isLast
    · exact absurd (Option.some.inj (isLast.symm.trans isNewline)) notNewline
    · exact absurd (Option.some.inj (isLast.symm.trans isReturn)) notReturn

/-- Nothing that is found starts with a character of a line ending. -/
theorem pass {before text result : Text} {c : Char} (isEnding : c = '\n' ∨ c = '\r')
    (later : Rewritten rules (before ++ [c]) text result) :
    Rewritten rules before (c :: text) (c :: result) := by
  refine .passed ?_ later
  intro content link rest same _ isLink
  obtain ⟨nonempty, oneLine⟩ := isLink.ne_nil_and_oneLine
  cases content with
  | nil => exact absurd rfl nonempty
  | cons d content =>
    obtain ⟨rfl, -⟩ := List.cons.inj same
    obtain ⟨notNewline, notReturn⟩ := oneLine c List.mem_cons_self
    exact (isEnding.elim notNewline notReturn).elim

theorem ending {before ending rest result : Text} (isEnding : IsLineEnding ending)
    (later : Rewritten rules (before ++ ending) rest result) :
    Rewritten rules before (ending ++ rest) (ending ++ result) := by
  cases isEnding with
  | pair =>
    rw [List.append_cons] at later
    exact pass (.inr rfl) (pass (.inl rfl) later)
  | carriageReturn => exact pass (.inr rfl) later
  | newline => exact pass (.inl rfl) later

/-- A line that is a bare link is found; of any other line no part is found. -/
theorem line {before content rest result : Text}
    (starts : LineStartsAt before (content ++ rest)) (oneLine : content.OneLine)
    (ends : AtLineEnd rest) (later : Rewritten rules (before ++ content) rest result) :
    Rewritten rules before (content ++ rest) (normalizeLine rules content ++ result) := by
  by_cases holdsLink : ∃ link, IsBareLink content link
  · obtain ⟨link, isLink⟩ := holdsLink
    have nonempty := isLink.ne_nil_and_oneLine.1
    rw [normalizeLine_of_isBareLink isLink]
    exact .found starts isLink (lineEndsAt_of_oneLine nonempty oneLine ends before)
      (linkBecomes_iff.2 rfl) later
  · have noLink := not_exists.1 holdsLink
    rw [normalizeLine_of_other noLink]
    cases content with
    | nil => rwa [List.append_nil] at later
    | cons c content =>
      obtain ⟨isChar, tailOneLine⟩ := List.forall_mem_cons.1 oneLine
      rw [List.append_cons] at later
      refine .passed ?_ (inside ⟨c, List.getLast?_concat, isChar⟩ tailOneLine later)
      intro other link after same _ isLink endsThere
      obtain ⟨rfl, -⟩ :=
        Text.eq_of_oneLine same oneLine isLink.ne_nil_and_oneLine.2 ends endsThere.atLineEnd
      exact noLink link isLink

/-- After a line ending that does not go on, a line starts. -/
theorem lineStartsAt_of_ending {ending rest : Text} (isEnding : IsLineEnding ending)
    (endsBefore : EndsBefore ending rest) (before : Text) :
    LineStartsAt (before ++ ending) rest := by
  cases isEnding with
  | pair => exact .inr (.inl (by simp))
  | newline => exact .inr (.inl (by simp))
  | carriageReturn => exact .inr (.inr ⟨by simp, endsBefore rfl⟩)

/-- A search through rows of lines comes to the same as going through the rows. -/
theorem ofLines {rows : List Line} (areLines : AreLines rows) {before : Text}
    (starts : LineStartsAt before (Text.ofLines rows)) :
    Rewritten rules before (Text.ofLines rows) (normalizeLinks rules (Text.ofLines rows)) := by
  induction areLines generalizing before with
  | nil => exact .done
  | last nonempty oneLine =>
    next content =>
    rw [Text.ofLines_last] at starts ⊢
    rw [normalizeLinks_of_oneLine rules nonempty oneLine]
    have whole := line (by rwa [List.append_nil]) oneLine atLineEnd_nil
      (@done rules (before ++ content))
    rwa [List.append_nil, List.append_nil] at whole
  | cons oneLine isEnding endsBefore later inductionHypothesis =>
    next content ending rows =>
    have after := inductionHypothesis
      (lineStartsAt_of_ending isEnding endsBefore (before ++ content))
    rw [Text.ofLines_cons, List.append_assoc] at starts
    rw [Text.ofLines_cons, normalizeLinks_append_ending rules oneLine isEnding endsBefore,
      List.append_assoc, List.append_assoc]
    exact line starts oneLine (isEnding.atLineEnd _) (.ending isEnding after)

/-- A search has one result. -/
theorem unique {before text first second : Text} (firstIs : Rewritten rules before text first)
    (secondIs : Rewritten rules before text second) : first = second := by
  induction firstIs generalizing second with
  | done =>
    generalize isText : ([] : Text) = text at secondIs
    cases secondIs with
    | done => rfl
    | found _ isLink =>
      exact absurd (List.append_eq_nil_iff.1 isText.symm).1 isLink.ne_nil_and_oneLine.1
    | passed => cases isText
  | @found before content link rest replaced result starts isLink ends becomes later
      inductionHypothesis =>
    generalize isText : content ++ rest = text at secondIs
    cases secondIs with
    | done => exact absurd (List.append_eq_nil_iff.1 isText).1 isLink.ne_nil_and_oneLine.1
    | found _ otherIsLink otherEnds otherBecomes otherLater =>
      obtain ⟨rfl, rfl⟩ := Text.eq_of_oneLine isText isLink.ne_nil_and_oneLine.2
        otherIsLink.ne_nil_and_oneLine.2 ends.atLineEnd otherEnds.atLineEnd
      obtain rfl := Option.some.inj
        ((bareLink?_eq_some_iff.2 isLink).symm.trans (bareLink?_eq_some_iff.2 otherIsLink))
      rw [linkBecomes_iff.1 becomes, linkBecomes_iff.1 otherBecomes, inductionHypothesis otherLater]
    | passed missed =>
      exact absurd ends (missed content link rest isText.symm (isText ▸ starts) isLink)
  | @passed before c text result missed later inductionHypothesis =>
    generalize isText : c :: text = whole at secondIs
    cases secondIs with
    | done => cases isText
    | found starts isLink ends =>
      exact absurd ends (missed _ _ _ isText (isText ▸ starts) isLink)
    | passed _ otherLater =>
      obtain ⟨rfl, rfl⟩ := List.cons.inj isText
      rw [inductionHypothesis otherLater]

end Rewritten

/-! ## Both -/

/-- A source falls into lines in one way. Each line is replaced by what becomes of it, whatever the
other lines are, and every ending is kept. A search through the whole source for bare links that
fill a line comes to the same text, and to no other. So a newline parts what becomes of the source
before it from what becomes of the source after it. -/
theorem normalizeLinks_by_line (rules : List LinkRule) (source : Text) :
    (∃ rows results : List Line,
        (∀ others, Text.ofLines others = source ∧ AreLines others ↔ others = rows) ∧
        (∀ others, List.Forall₂ (LineBecomes rules) rows others ↔ others = results) ∧
        normalizeLinks rules source = Text.ofLines results) ∧
      (∀ result, Rewritten rules [] source result ↔ result = normalizeLinks rules source) ∧
      ∀ rest, normalizeLinks rules (source ++ '\n' :: rest) =
        normalizeLinks rules source ++ '\n' :: normalizeLinks rules rest := by
  have search : Rewritten rules [] source (normalizeLinks rules source) := by
    have whole := @Rewritten.ofLines rules _ (Text.areLines_lines source) [] (.inl rfl)
    rwa [Text.ofLines_lines] at whole
  refine ⟨⟨Text.lines source, _, ?_, ?_, rfl⟩, ?_, normalizeLinks_append_newline rules source⟩
  · intro others
    rw [← Text.lines_eq_iff, eq_comm]
  · intro others
    have becomes : LineBecomes rules =
        fun line result => { line with content := normalizeLine rules line.content } = result := by
      funext line result
      exact propext lineBecomes_iff
    have pairwise := @List.forall₂_map_left_iff _ _ _ Eq
      (fun line : Line => { line with content := normalizeLine rules line.content })
      (Text.lines source) others
    rw [becomes, ← pairwise, List.forall₂_eq_eq_eq, eq_comm]
  · intro result
    constructor
    · exact fun isResult => isResult.unique search
    · rintro rfl
      exact search

/-- Lines with links beside each of the three endings, and between two of them. -/
example :
    normalizeLinks LinkRule.builtin
        "a\r\rhttps://youtu.be/x1 \r\n\nhttp://vimeo.com/9\rhttps://vimeo.com/8 b".toList =
      "a\r\r### @youtube x1\r\n\n### @vimeo 9\rhttps://vimeo.com/8 b".toList := by
  decide

end Folio
