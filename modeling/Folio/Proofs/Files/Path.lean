import Folio.Files.Path
import Mathlib.Data.List.Basic

/-!
# The last part of a path

The name of a file is the last part of the path that leads to it. What is asked about a path here
is asked about its parts between slashes: which one is the last that counts, and what is left of it
without its extension.
-/

namespace Folio

namespace Text

variable {mark : Char} {text : Text}

/-- Splitting at a character is what the library does to any list. -/
theorem splitAtEach_eq_splitOn (mark : Char) (text : Text) :
    splitAtEach mark text = text.splitOn mark := by
  induction text with
  | nil => simp [splitAtEach]
  | cons c text inductionHypothesis =>
    rw [List.splitOn_cons_eq_if_modifyHead, ← inductionHypothesis, splitAtEach]
    by_cases isMark : c = mark
    · simp [isMark]
    · simp only [isMark, if_false, beq_iff_eq]
      cases parts : splitAtEach mark text with
      | nil => exact absurd (parts ▸ inductionHypothesis).symm (List.splitOn_ne_nil mark text)
      | cons first rest => rfl

theorem splitAtEach_ne_nil (mark : Char) (text : Text) : splitAtEach mark text ≠ [] := by
  rw [splitAtEach_eq_splitOn]
  exact List.splitOn_ne_nil mark text

/-- A mark between two texts ends the parts of the first one. -/
theorem splitAtEach_append_cons (mark : Char) (before after : Text) :
    splitAtEach mark (before ++ mark :: after) =
      splitAtEach mark before ++ splitAtEach mark after := by
  simp only [splitAtEach_eq_splitOn, List.splitOn_eq_splitOnP]
  exact List.splitOnP_append_cons before after (by simp)

theorem splitAtEach_of_not_mem (absent : mark ∉ text) : splitAtEach mark text = [text] := by
  rw [splitAtEach_eq_splitOn]
  exact List.splitOn_eq_singleton absent

/-- Each mark at the end of a text ends an empty part. -/
theorem splitAtEach_append_replicate (mark : Char) (text : Text) (count : Nat) :
    splitAtEach mark (text ++ List.replicate count mark) =
      splitAtEach mark text ++ List.replicate count [] := by
  induction count generalizing text with
  | zero => simp
  | succ count inductionHypothesis =>
    rw [List.replicate_succ', ← List.append_assoc, splitAtEach_append_cons, inductionHypothesis,
      List.replicate_succ', List.append_assoc]
    rfl

/-- No part of a split text holds the mark. -/
theorem not_mem_of_mem_splitAtEach {part : Text} (isPart : part ∈ splitAtEach mark text) :
    mark ∉ part := by
  induction text generalizing part with
  | nil =>
    have empty : part = [] := by simpa [splitAtEach] using isPart
    simp [empty]
  | cons c text inductionHypothesis =>
    rw [splitAtEach] at isPart
    split at isPart
    · rcases List.mem_cons.1 isPart with rfl | isLater
      · simp
      · exact inductionHypothesis isLater
    next notMark =>
      cases parts : splitAtEach mark text with
      | nil => exact absurd parts (splitAtEach_ne_nil mark text)
      | cons first rest =>
        rw [parts] at isPart inductionHypothesis
        rcases List.mem_cons.1 isPart with rfl | isLater
        · simpa [Ne.symm notMark] using inductionHypothesis List.mem_cons_self
        · exact inductionHypothesis (List.mem_cons_of_mem first isLater)

end Text

namespace Path

open Text

/-- Whether a part can be the name of a file: it counts, and it does not lead upwards. -/
def IsFileName (part : Text) : Prop :=
  isIdle part = false ∧ part ≠ ['.', '.']

/-! ## The last part that counts -/

theorem getLast?_trimParts (parts : List Text) :
    (trimParts parts).getLast? = parts.reverse.find? fun part => !isIdle part := by
  unfold trimParts
  induction parts.reverse with
  | nil => rfl
  | cons part rest inductionHypothesis =>
    cases counts : isIdle part with
    | true => simpa [counts] using inductionHypothesis
    | false => simp [counts]

/-- What a path starts with holds no part that counts. -/
theorem getLast?_counted (path : Path) :
    (counted path).2.getLast? =
      (splitAtEach '/' path).reverse.find? fun part => !isIdle part := by
  unfold counted
  rw [getLast?_trimParts]
  unfold split
  split
  · simp [splitAtEach, isIdle]
  · rfl
  · simp [splitAtEach, isIdle]
  · rfl

/-- If the last part of a path is a name, it is the name of its file. -/
theorem fileName?_of_getLast? {path : Path} {part : Text}
    (isLast : (splitAtEach '/' path).getLast? = some part) (isName : IsFileName part) :
    fileName? path = some part := by
  obtain ⟨front, parts⟩ := List.getLast?_eq_some_iff.1 isLast
  unfold fileName?
  rw [getLast?_counted, parts, List.reverse_concat, List.find?_cons_of_pos (by simp [isName.1]),
    Option.filter_some, if_pos (by simpa using isName.2)]

/-- A file name is one part of a path. -/
theorem fileName?_eq_some {path : Path} {name : Text} (named : fileName? path = some name) :
    IsFileName name ∧ '/' ∉ name := by
  unfold fileName? at named
  rw [getLast?_counted] at named
  obtain ⟨found, notUpwards⟩ := Option.filter_eq_some_iff.1 named
  have counts := List.find?_some found
  have isPart := List.mem_reverse.1 (List.mem_of_find?_eq_some found)
  constructor
  · constructor
    · simpa using counts
    · simpa using notUpwards
  · exact not_mem_of_mem_splitAtEach isPart

/-! ## Names and their stems -/

/-- A stem is a start of the name, and not an empty one. -/
theorem stemOfName_spec {name : Text} (notEmpty : name ≠ []) :
    stemOfName name ≠ [] ∧ stemOfName name <+: name := by
  unfold stemOfName
  split
  next dot before found =>
    split
    · exact ⟨notEmpty, List.prefix_refl name⟩
    next beforeNotEmpty =>
      constructor
      · simpa using beforeNotEmpty
      · have isSuffix : dot :: before <:+ name.reverse := by
          rw [← found]
          exact List.dropWhile_suffix _
        rw [← List.reverse_suffix, List.reverse_reverse]
        exact (List.suffix_cons dot before).trans isSuffix
  · exact ⟨notEmpty, List.prefix_refl name⟩

/-- An extension after a name is what its stem leaves out. -/
theorem stemOfName_append_extension {name extension : Text} (notEmpty : name ≠ [])
    (noDot : '.' ∉ extension) : stemOfName (name ++ '.' :: extension) = name := by
  have passed : (name ++ '.' :: extension).reverse.dropWhile (· ≠ '.') = '.' :: name.reverse := by
    rw [List.reverse_append, List.reverse_cons, List.append_assoc,
      List.dropWhile_append_of_pos]
    · simp
    · intro c isIn
      have isChar := List.mem_reverse.1 isIn
      simp only [decide_eq_true_eq]
      rintro rfl
      exact noDot isChar
  unfold stemOfName
  rw [passed]
  simp [notEmpty]

/-- A stem can be given another extension. -/
theorem isFileName_append_extension {name extension : Text} (notEmpty : name ≠ [])
    (extended : extension ≠ []) : IsFileName (name ++ '.' :: extension) := by
  have isLong : 3 ≤ (name ++ '.' :: extension).length := by
    have := List.length_pos_of_ne_nil notEmpty
    have := List.length_pos_of_ne_nil extended
    simp only [List.length_append, List.length_cons]
    omega
  constructor
  · rw [isIdle, Bool.or_eq_false_iff]
    constructor
    · simp
    · rw [beq_eq_false_iff_ne]
      intro same
      rw [same] at isLong
      simp at isLong
  · intro same
    rw [same] at isLong
    simp at isLong

/-! ## Paths in a directory -/

/-- A name that is put behind a directory is the last part of the path. -/
theorem getLast?_splitAtEach_join (base : Path) {name : Text} (noSlash : '/' ∉ name) :
    (splitAtEach '/' (join base name)).getLast? = some name := by
  have alone := splitAtEach_of_not_mem noSlash
  have notAbsolute : isAbsolute name = false := by
    cases name with
    | nil => rfl
    | cons c name =>
      have notSlash : c ≠ '/' := by
        rintro rfl
        exact noSlash List.mem_cons_self
      simpa [isAbsolute] using notSlash
  rw [join, notAbsolute, if_neg Bool.false_ne_true]
  split
  next ends =>
    rcases base.eq_nil_or_concat' with rfl | ⟨front, c, rfl⟩
    · simp [alone]
    · have isSlash : c = '/' := by simpa using ends
      rw [isSlash, List.append_assoc, List.singleton_append, splitAtEach_append_cons, alone,
        List.getLast?_concat]
  · rw [splitAtEach_append_cons, alone, List.getLast?_concat]

end Path

end Folio
