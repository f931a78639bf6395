import Folio.Proofs.LinkLine

/-!
# Lines of video links

With the built-in rules a line that is a bare link to a known video becomes the heading of the
video, and every other line stays as it is. A heading is no bare link and lies in one line, and no
line becomes empty. So the lines of what is written are the lines of the source, one by one, and
when they are read again nothing is left to replace.
-/

namespace Folio

/-! ## Lines that are read again -/

/-- If contents stay in their lines and none becomes empty, what is written has the lines of the
source, each with its new content. -/
theorem lines_normalizeLinks {rules : List LinkRule}
    (oneLine : ∀ content : Text, content.OneLine → (normalizeLine rules content).OneLine)
    (nonempty : ∀ content : Text, content ≠ [] → normalizeLine rules content ≠ [])
    (source : Text) :
    Text.lines (normalizeLinks rules source) =
      (Text.lines source).map (Line.mapContent (normalizeLine rules)) := by
  rw [normalizeLinks]
  exact Text.lines_ofLines
    (Text.areLines_map_mapContent (Text.areLines_lines source) oneLine nonempty)

/-- A source stays as it is if each of its lines does. -/
theorem normalizeLinks_of_settled {rules : List LinkRule} {source : Text}
    (settled : ∀ line ∈ Text.lines source, normalizeLine rules line.content = line.content) :
    normalizeLinks rules source = source := by
  have same : (Text.lines source).map (Line.mapContent (normalizeLine rules)) =
      (Text.lines source).map id :=
    List.map_congr_left fun line member => congrArg (Line.mk · line.ending) (settled line member)
  calc normalizeLinks rules source
      = Text.ofLines ((Text.lines source).map (Line.mapContent (normalizeLine rules))) := rfl
    _ = source := by rw [same, List.map_id, Text.ofLines_lines]

/-! ## The built-in rules -/

/-- The addresses of the videos of the site, without a scheme. -/
def videoSites : List Text :=
  ["youtu.be/".toList, "www.youtube.com/watch?v=".toList]

/-- The key of a video stands at the start of a text: the longest run of a class, which is not
empty. -/
structure IsKey (inKey : Char → Bool) (key rest : Text) : Prop where
  nonempty : key ≠ []
  all : ∀ c ∈ key, inKey c = true
  maximal : ∀ c, rest.head? = some c → inKey c = false

/-- The headings of known videos, for links to them without a scheme. -/
inductive IsVideo : (link heading : Text) → Prop
  | vimeo {key rest : Text} (isKey : IsKey Unicode.isDecimalDigit key rest) :
      IsVideo ("vimeo.com/".toList ++ (key ++ rest)) ("### @vimeo ".toList ++ key)
  | youtube {site key rest : Text} (isSite : site ∈ videoSites)
      (isKey : IsKey Unicode.isWordChar key rest) :
      IsVideo (site ++ (key ++ rest)) ("### @youtube ".toList ++ key)

namespace LinkRule

variable {inKey : Char → Bool} {macroName : String}

/-- The rule of a site makes its command of the key of a link to the site. -/
theorem expand?_ofSite_of_isKey {key rest : Text} (isKey : IsKey inKey key rest)
    (plain : '$' ∉ macroName.toList) (site : Text) :
    (ofSite site inKey (videoCommand macroName)).expand? (site ++ (key ++ rest)) =
      some ("### @".toList ++ macroName.toList ++ ' ' :: key) := by
  have read : (key ++ rest).takeWhile inKey = key :=
    congrArg Prod.fst (Text.run_eq_iff.2 ⟨rfl, isKey.all, isKey.maximal⟩)
  have hasKey : (key ++ rest).takeWhile inKey ≠ [] := read.symm ▸ isKey.nonempty
  rw [expand?_ofSite hasKey, read, expandWith_videoCommand plain]

/-- The rule of a site fits only links to the site with a key. -/
theorem exists_isKey_of_expand?_ofSite {site link command : Text}
    (plain : '$' ∉ macroName.toList)
    (expands : (ofSite site inKey (videoCommand macroName)).expand? link = some command) :
    ∃ key rest, IsKey inKey key rest ∧ link = site ++ (key ++ rest) ∧
      command = "### @".toList ++ macroName.toList ++ ' ' :: key := by
  cases isLink : Text.dropLead? site link with
  | none =>
    rw [expand?_ofSite_of_other isLink] at expands
    cases expands
  | some text =>
    obtain rfl := Text.dropLead?_eq_some_iff.1 isLink
    have ran : Text.run inKey text = (text.takeWhile inKey, text.dropWhile inKey) := rfl
    obtain ⟨split, all, maximal⟩ := Text.run_eq_iff.1 ran
    by_cases hasKey : text.takeWhile inKey = []
    · simp [expand?, ofSite, isLink, hasKey] at expands
    · rw [expand?_ofSite hasKey, expandWith_videoCommand plain, Option.some.injEq] at expands
      exact ⟨_, _, ⟨hasKey, all, maximal⟩, congrArg (site ++ ·) split, expands.symm⟩

end LinkRule

/-- The built-in rules fit the links to known videos and no others. -/
theorem firstExpansion?_builtin_eq_some_iff {link heading : Text} :
    firstExpansion? LinkRule.builtin link = some heading ↔ IsVideo link heading := by
  have vimeo : '$' ∉ "vimeo".toList := by decide
  have youtube : '$' ∉ "youtube".toList := by decide
  constructor
  · intro expands
    obtain ⟨rule, isRule, expands⟩ := List.exists_of_findSome?_eq_some expands
    simp only [LinkRule.builtin, List.mem_cons, List.not_mem_nil, or_false] at isRule
    rcases isRule with rfl | rfl | rfl
    · obtain ⟨key, rest, isKey, rfl, rfl⟩ := LinkRule.exists_isKey_of_expand?_ofSite vimeo expands
      exact .vimeo isKey
    · obtain ⟨key, rest, isKey, rfl, rfl⟩ := LinkRule.exists_isKey_of_expand?_ofSite youtube expands
      exact .youtube List.mem_cons_self isKey
    · obtain ⟨key, rest, isKey, rfl, rfl⟩ := LinkRule.exists_isKey_of_expand?_ofSite youtube expands
      exact .youtube (List.mem_cons_of_mem _ List.mem_cons_self) isKey
  · intro isVideo
    cases isVideo with
    | vimeo isKey =>
      rw [firstExpansion?, LinkRule.builtin, List.findSome?_cons,
        LinkRule.expand?_ofSite_of_isKey isKey vimeo]
      rfl
    | youtube isSite isKey =>
      have expands := LinkRule.expand?_ofSite_of_isKey isKey youtube
      simp only [videoSites, List.mem_cons, List.not_mem_nil, or_false] at isSite
      rcases isSite with rfl | rfl
      · rw [firstExpansion?, LinkRule.builtin, List.findSome?_cons,
          LinkRule.expand?_ofSite_of_other (by simp), List.findSome?_cons, expands]
        rfl
      · rw [firstExpansion?, LinkRule.builtin, List.findSome?_cons,
          LinkRule.expand?_ofSite_of_other (by simp), List.findSome?_cons,
          LinkRule.expand?_ofSite_of_other (by simp), List.findSome?_cons, expands]
        rfl

/-- The heading of a video starts with a number sign and lies in one line. -/
theorem IsVideo.starts_and_oneLine {link heading : Text} (isVideo : IsVideo link heading) :
    (∃ rest, heading = '#' :: rest) ∧ heading.OneLine := by
  have keyOneLine {inKey : Char → Bool} {key rest : Text} (isKey : IsKey inKey key rest)
      (noNewline : inKey '\n' = false) (noReturn : inKey '\r' = false) : key.OneLine := by
    intro c member
    have inside := isKey.all c member
    constructor
    · rintro rfl
      exact Bool.false_ne_true (noNewline.symm.trans inside)
    · rintro rfl
      exact Bool.false_ne_true (noReturn.symm.trans inside)
  cases isVideo with
  | vimeo isKey =>
    exact ⟨⟨_, rfl⟩, Text.OneLine.append (by decide) (keyOneLine isKey (by decide) (by decide))⟩
  | youtube _ isKey =>
    exact ⟨⟨_, rfl⟩, Text.OneLine.append (by decide) (keyOneLine isKey (by decide) (by decide))⟩

/-- A text that starts with a number sign is no bare link. -/
theorem not_isBareLink_numberSign (rest link : Text) : ¬ IsBareLink ('#' :: rest) link := by
  intro isLink
  have found := bareLink?_eq_some_iff.2 isLink
  have missed : bareLink? ('#' :: rest) = none := rfl
  rw [missed] at found
  cases found

/-! ## Lines -/

/-- What becomes of a line with the built-in rules: a bare link to a known video becomes its
heading, without anything else of the line, and any other line stays as it is. -/
inductive VideoLine : (content result : Text) → Prop
  | heading {content link heading : Text} (isLink : IsBareLink content link)
      (isVideo : IsVideo link heading) : VideoLine content heading
  | kept {content : Text} (noVideo : ∀ link heading, IsBareLink content link →
      ¬ IsVideo link heading) : VideoLine content content

theorem videoLine_normalizeLine (content : Text) :
    VideoLine content (normalizeLine LinkRule.builtin content) := by
  by_cases holdsLink : ∃ link, IsBareLink content link
  · obtain ⟨link, isLink⟩ := holdsLink
    rw [normalizeLine_of_isBareLink isLink]
    cases expands : firstExpansion? LinkRule.builtin link with
    | some heading => exact .heading isLink (firstExpansion?_builtin_eq_some_iff.1 expands)
    | none =>
      refine .kept fun other heading otherIsLink isVideo => ?_
      obtain rfl := Option.some.inj
        ((bareLink?_eq_some_iff.2 isLink).symm.trans (bareLink?_eq_some_iff.2 otherIsLink))
      rw [firstExpansion?_builtin_eq_some_iff.2 isVideo] at expands
      cases expands
  · have noLink := not_exists.1 holdsLink
    rw [normalizeLine_of_other noLink]
    exact .kept fun link heading isLink => absurd isLink (noLink link)

/-- A line with a number sign at its start stays as it is. -/
theorem normalizeLine_numberSign (rules : List LinkRule) (rest : Text) :
    normalizeLine rules ('#' :: rest) = '#' :: rest :=
  normalizeLine_of_other (not_isBareLink_numberSign rest) rules

namespace VideoLine

variable {content result : Text}

theorem oneLine (videoLine : VideoLine content result) (contentOneLine : content.OneLine) :
    result.OneLine := by
  cases videoLine with
  | heading _ isVideo => exact isVideo.starts_and_oneLine.2
  | kept => exact contentOneLine

theorem ne_nil (videoLine : VideoLine content result) (nonempty : content ≠ []) :
    result ≠ [] := by
  cases videoLine with
  | heading _ isVideo =>
    obtain ⟨⟨rest, rfl⟩, -⟩ := isVideo.starts_and_oneLine
    exact List.cons_ne_nil '#' rest
  | kept => exact nonempty

/-- What becomes of a line stays as it is. -/
theorem settled (content : Text) :
    normalizeLine LinkRule.builtin (normalizeLine LinkRule.builtin content) =
      normalizeLine LinkRule.builtin content := by
  generalize became : normalizeLine LinkRule.builtin content = result
  have videoLine := videoLine_normalizeLine content
  rw [became] at videoLine
  cases videoLine with
  | heading _ isVideo =>
    obtain ⟨⟨rest, rfl⟩, -⟩ := isVideo.starts_and_oneLine
    exact normalizeLine_numberSign LinkRule.builtin rest
  | kept => exact became

end VideoLine

/-- With the built-in rules a source that has been written once stays as it is. The lines of what is
written are those of the source with the endings that they had, and each is a line of the source as
it was or the heading of the video that the line was a bare link to. -/
theorem normalizeLinks_builtin_twice (source : Text) :
    let written := normalizeLinks LinkRule.builtin source
    normalizeLinks LinkRule.builtin written = written ∧
      List.Forall₂ (fun line result : Line =>
          result.ending = line.ending ∧ VideoLine line.content result.content)
        (Text.lines source) (Text.lines written) := by
  intro written
  have lines : Text.lines written =
      (Text.lines source).map (Line.mapContent (normalizeLine LinkRule.builtin)) :=
    lines_normalizeLinks (fun content => (videoLine_normalizeLine content).oneLine)
      (fun content => (videoLine_normalizeLine content).ne_nil) source
  constructor
  · apply normalizeLinks_of_settled
    intro line member
    rw [lines] at member
    obtain ⟨before, -, rfl⟩ := List.mem_map.1 member
    exact VideoLine.settled before.content
  · rw [lines, List.forall₂_map_right_iff, List.forall₂_same]
    exact fun line _ => ⟨rfl, videoLine_normalizeLine line.content⟩

end Folio
