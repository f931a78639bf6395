import Folio.Unicode.Blank
import Folio.Unicode.LowerCase
import Folio.Unicode.Word

/-!
# Lower case and character classes

A text has whitespace just where its lower case has it, and only the empty text has an empty lower
case: a name that can be used in one letter case can be used in every other. ASCII letters stay
ASCII letters.

Lower case is reached in one step. No small letter is a capital again, and a sigma is left as it is
once it is small, so what a text is changed to does not depend on its place any more.
-/

namespace Folio.Unicode

theorem exists_range_of_inRanges {ranges : List (Nat × Nat)} {point : Nat}
    (inside : inRanges ranges point = true) :
    ∃ range ∈ ranges, range.1 ≤ point ∧ point ≤ range.2 := by
  induction ranges with
  | nil => simp at inside
  | cons range rest inductionHypothesis =>
    obtain ⟨first, last⟩ := range
    rw [inRanges_cons] at inside
    split at inside
    · simp at inside
    · next after =>
      rcases Bool.or_eq_true_iff.1 inside with before | later
      · exact ⟨(first, last), List.mem_cons_self .., Nat.le_of_not_lt after,
          of_decide_eq_true before⟩
      · obtain ⟨range, member, bounds⟩ := inductionHypothesis later
        exact ⟨range, List.mem_cons_of_mem _ member, bounds⟩

/-- What holds of the first 128 characters holds of every ASCII character. -/
theorem ascii_forall {property : Char → Prop}
    (checked : ∀ n, n < 128 → property (Char.ofNat n)) {c : Char} (ascii : c.toNat < 128) :
    property c := by
  have atPoint := checked c.toNat ascii
  rwa [Char.ofNat_toNat] at atPoint

theorem toNat_ofNat_of_isValidChar {point : Nat} (valid : point.isValidChar) :
    (Char.ofNat point).toNat = point := by
  rw [Char.ofNat, dif_pos valid]
  rfl

/-! ## ASCII letters -/

theorem toNat_lt_of_isAlpha {c : Char} (letter : c.isAlpha = true) : c.toNat < 128 := by
  rcases Bool.or_eq_true_iff.1 letter with isUpper | isLower
  · have bounds : 'A'.val ≤ c.val ∧ c.val ≤ 'Z'.val := of_decide_eq_true isUpper
    exact Nat.lt_of_le_of_lt bounds.2 (by decide)
  · obtain ⟨-, last⟩ := Bool.and_eq_true_iff.1 isLower
    have bound : c.val ≤ 'z'.val := of_decide_eq_true last
    exact Nat.lt_of_le_of_lt bound (by decide)

theorem toNat_lt_of_isAlphanum {c : Char} (alphanumeric : c.isAlphanum = true) : c.toNat < 128 := by
  rcases Bool.or_eq_true_iff.1 alphanumeric with letter | digit
  · exact toNat_lt_of_isAlpha letter
  · obtain ⟨-, last⟩ := Bool.and_eq_true_iff.1 digit
    have bound : c.val ≤ '9'.val := of_decide_eq_true last
    exact Nat.lt_of_le_of_lt bound (by decide)

theorem isBlank_of_isAlpha {c : Char} (letter : c.isAlpha = true) : isBlank c = false := by
  have checked : ∀ n, n < 128 → (Char.ofNat n).isAlpha = true → isBlank (Char.ofNat n) = false := by
    decide +kernel
  exact @ascii_forall (fun c => c.isAlpha = true → isBlank c = false) checked c
    (toNat_lt_of_isAlpha letter) letter

theorem isWordChar_of_isAlpha {c : Char} (letter : c.isAlpha = true) : isWordChar c = true :=
  isWordChar_of_isAlphanum (Bool.or_eq_true_iff.2 (.inl letter)) (toNat_lt_of_isAlpha letter)

theorem lowerChar_of_isAlpha {c : Char} (letter : c.isAlpha = true) :
    ∃ small, lowerChar c = [small] ∧ small.isLower = true := by
  have checked : ∀ n, n < 128 → (Char.ofNat n).isAlpha = true →
      lowerChar (Char.ofNat n) = [(Char.ofNat n).toLower] ∧
        (Char.ofNat n).toLower.isLower = true := by
    decide +kernel
  have lowered := @ascii_forall
    (fun c => c.isAlpha = true → lowerChar c = [c.toLower] ∧ c.toLower.isLower = true) checked c
    (toNat_lt_of_isAlpha letter) letter
  exact ⟨c.toLower, lowered⟩

/-- The lower case of ASCII letters is small ASCII letters. -/
theorem isLower_of_mem_lowerCase {text : List Char} (letters : ∀ c ∈ text, c.isAlpha = true) :
    ∀ c ∈ lowerCase text, c.isLower = true := by
  have after : ∀ before, ∀ c ∈ lowerAfter before text, c.isLower = true := by
    induction text with
    | nil => exact fun _ => by simp [lowerAfter]
    | cons c text inductionHypothesis =>
      obtain ⟨letter, letters⟩ := List.forall_mem_cons.1 letters
      have notSigma : c ≠ 'Σ' := by
        rintro rfl
        exact absurd letter (by decide)
      obtain ⟨small, lowered, isSmall⟩ := lowerChar_of_isAlpha letter
      intro before
      rw [lowerAfter, if_neg notSigma, lowered]
      exact List.forall_mem_cons.2 ⟨isSmall, inductionHypothesis letters _⟩
  exact after []

/-! ## Whitespace -/

theorem exists_range_of_isBlank {c : Char} (blank : isBlank c = true) :
    ∃ range ∈ blankRanges, range.1 ≤ c.toNat ∧ c.toNat ≤ range.2 :=
  exists_range_of_inRanges blank

/-- No capital is whitespace. -/
theorem caseSpans_not_blank : ∀ span ∈ caseSpans, ∀ range ∈ blankRanges,
    range.2 < span.first ∨ span.last < range.1 := by
  decide +kernel

/-- No small letter of a capital is whitespace. -/
theorem caseSpans_small_not_blank : ∀ span ∈ caseSpans, ∀ range ∈ blankRanges,
    (range.2 : Int) < span.first + span.offset ∨ span.last + span.offset < (range.1 : Int) := by
  decide +kernel

theorem blankRanges_pos : ∀ range ∈ blankRanges, 0 < range.1 := by
  decide

theorem covers_iff {span : CaseSpan} {point : Nat} :
    span.covers point = true ↔
      span.first ≤ point ∧ point ≤ span.last ∧ (point - span.first) % span.stride = 0 := by
  simp [CaseSpan.covers, and_assoc]

theorem covers_of_find? {point : Nat} {span : CaseSpan}
    (found : caseSpans.find? (·.covers point) = some span) : span.covers point = true := by
  simpa using List.find?_some found

/-- A capital and its small letter are both not whitespace. -/
theorem isBlank_of_covers {c : Char} {span : CaseSpan} (isSpan : span ∈ caseSpans)
    (covers : span.covers c.toNat = true) :
    isBlank c = false ∧ isBlank (Char.ofNat (c.toNat + span.offset).toNat) = false := by
  obtain ⟨first, last, -⟩ := covers_iff.1 covers
  constructor
  · rw [← Bool.not_eq_true]
    intro blank
    obtain ⟨range, isRange, low, high⟩ := exists_range_of_isBlank blank
    have := caseSpans_not_blank span isSpan range isRange
    omega
  · by_cases valid : (c.toNat + span.offset).toNat.isValidChar
    · have point : (Char.ofNat (c.toNat + span.offset).toNat).toNat =
          (c.toNat + span.offset).toNat := toNat_ofNat_of_isValidChar valid
      rw [← Bool.not_eq_true]
      intro blank
      obtain ⟨range, isRange, low, high⟩ := exists_range_of_isBlank blank
      rw [point] at low high
      have := caseSpans_small_not_blank span isSpan range isRange
      have := blankRanges_pos range isRange
      omega
    · rw [Char.ofNat, dif_neg valid]
      decide

theorem isBlank_smallLetter (c : Char) : isBlank (smallLetter c) = isBlank c := by
  by_cases ascii : c.toNat < 0x80
  · have checked : ∀ n, n < 128 →
        isBlank (smallLetter (Char.ofNat n)) = isBlank (Char.ofNat n) := by
      decide +kernel
    exact @ascii_forall (fun c => isBlank (smallLetter c) = isBlank c) checked c ascii
  · rw [smallLetter, if_neg ascii]
    split
    · next span found =>
      obtain ⟨capital, small⟩ :=
        isBlank_of_covers (List.mem_of_find?_eq_some found) (covers_of_find? found)
      rw [capital, small]
    · rfl

theorem any_isBlank_lowerChar (c : Char) : (lowerChar c).any isBlank = isBlank c := by
  unfold lowerChar
  split
  · next dotted =>
    rw [dotted]
    decide
  · simp [isBlank_smallLetter]

/-- A text has whitespace just where its lower case has it. -/
theorem any_isBlank_lowerCase (text : List Char) :
    (lowerCase text).any isBlank = text.any isBlank := by
  have after : ∀ before, (lowerAfter before text).any isBlank = text.any isBlank := by
    induction text with
    | nil => exact fun _ => rfl
    | cons c text inductionHypothesis =>
      intro before
      rw [lowerAfter, List.any_append, inductionHypothesis, List.any_cons]
      congr 1
      split
      · next isSigma =>
        -- Both forms of a small sigma are letters, whatever stands around the capital.
        rw [isSigma]
        split <;> decide
      · exact any_isBlank_lowerChar c
  exact after []

theorem lowerChar_ne_nil (c : Char) : lowerChar c ≠ [] := by
  unfold lowerChar
  split <;> simp

/-- Only the empty text has an empty lower case. -/
@[simp]
theorem lowerCase_eq_nil_iff {text : List Char} : lowerCase text = [] ↔ text = [] := by
  cases text with
  | nil => simp
  | cons c text =>
    rw [lowerCase, lowerAfter]
    split <;> simp [lowerChar_ne_nil]

/-! ## Lower case of lower case -/

/-- A character that lower case leaves as it is, wherever it stands. -/
def IsSmall (c : Char) : Prop :=
  c ≠ 'Σ' ∧ lowerChar c = [c]

instance (c : Char) : Decidable (IsSmall c) :=
  inferInstanceAs (Decidable (c ≠ 'Σ' ∧ lowerChar c = [c]))

/-- All characters that lower case may change: the ASCII capitals, the capital I with a dot, and
the capitals from U+0080 on. -/
def allCaseSpans : List CaseSpan :=
  ⟨0x41, 0x5A, 1, 32⟩ :: ⟨0x130, 0x130, 1, 0⟩ :: caseSpans

/-- Whether no small letter of one span is a capital of another one: it lies outside, or it lies at
an odd distance from capitals that are two apart. -/
def CaseSpan.apart (span other : CaseSpan) : Bool :=
  let low := (span.first + span.offset).toNat
  let high := (span.last + span.offset).toNat
  other.last.blt low || high.blt other.first ||
    (other.stride == 2 && (span.stride == 2 || span.first == span.last) &&
      (low + other.first) % 2 == 1)

theorem caseSpans_apart :
    (caseSpans.all fun span => allCaseSpans.all fun other => span.apart other) = true := by
  decide +kernel

theorem caseSpans_small_nonneg : ∀ span ∈ caseSpans, 0 ≤ (span.first : Int) + span.offset := by
  decide +kernel

theorem not_covers_of_apart {span other : CaseSpan} (apart : span.apart other = true)
    (nonneg : 0 ≤ (span.first : Int) + span.offset) {point : Nat}
    (covers : span.covers point = true) : other.covers (point + span.offset).toNat = false := by
  rw [← Bool.not_eq_true]
  intro isCapital
  rcases covers_iff.1 covers with ⟨first, last, step⟩
  rcases covers_iff.1 isCapital with ⟨otherFirst, otherLast, otherStep⟩
  simp only [CaseSpan.apart, Bool.or_eq_true, Bool.and_eq_true, Nat.blt_eq, beq_iff_eq] at apart
  rcases apart with (before | after) | ⟨⟨pairs, single⟩, odd⟩
  · omega
  · omega
  · rw [pairs] at otherStep
    rcases single with isPair | isSingle
    · rw [isPair] at step
      omega
    · omega

/-- A character is small if no span of capitals covers it. -/
theorem isSmall_of_not_covers {c : Char}
    (uncovered : ∀ span ∈ allCaseSpans, span.covers c.toNat = false) : IsSmall c := by
  have notSigma : c ≠ 'Σ' := by
    rintro rfl
    have isCapital := uncovered ⟨0x3A3, 0x3AB, 1, 32⟩ (by decide)
    exact absurd isCapital (by decide)
  have notDotted : c ≠ '\u0130' := by
    rintro rfl
    have isCapital := uncovered ⟨0x130, 0x130, 1, 0⟩ (by decide)
    exact absurd isCapital (by decide)
  refine ⟨notSigma, ?_⟩
  rw [lowerChar, if_neg notDotted, smallLetter]
  split
  · next ascii =>
    have checked : ∀ n, n < 128 → CaseSpan.covers ⟨0x41, 0x5A, 1, 32⟩ (Char.ofNat n).toNat = false →
        (Char.ofNat n).toLower = Char.ofNat n := by
      decide +kernel
    have kept := @ascii_forall
      (fun c => CaseSpan.covers ⟨0x41, 0x5A, 1, 32⟩ c.toNat = false → c.toLower = c) checked c ascii
      (uncovered _ (by decide))
    rw [kept]
  · have missed : caseSpans.find? (·.covers c.toNat) = none := by
      rw [List.find?_eq_none]
      intro span isSpan
      have isOther : span ∈ allCaseSpans := by simp [allCaseSpans, isSpan]
      simpa using uncovered span isOther
    rw [missed]

/-- The small letter of a capital is small. -/
theorem isSmall_of_covers {c : Char} {span : CaseSpan} (isSpan : span ∈ caseSpans)
    (covers : span.covers c.toNat = true) :
    IsSmall (Char.ofNat (c.toNat + span.offset).toNat) := by
  by_cases valid : (c.toNat + span.offset).toNat.isValidChar
  · have point : (Char.ofNat (c.toNat + span.offset).toNat).toNat =
        (c.toNat + span.offset).toNat := toNat_ofNat_of_isValidChar valid
    apply isSmall_of_not_covers
    intro other isOther
    rw [point]
    have apart := List.all_eq_true.1 (List.all_eq_true.1 caseSpans_apart span isSpan) other isOther
    exact not_covers_of_apart apart (caseSpans_small_nonneg span isSpan) covers
  · rw [Char.ofNat, dif_neg valid]
    decide

theorem isSmall_smallLetter {c : Char} (notSigma : c ≠ 'Σ') (notDotted : c ≠ '\u0130') :
    IsSmall (smallLetter c) := by
  by_cases ascii : c.toNat < 0x80
  · have checked : ∀ n, n < 128 → IsSmall (smallLetter (Char.ofNat n)) := by
      decide +kernel
    exact @ascii_forall (fun c => IsSmall (smallLetter c)) checked c ascii
  · cases found : caseSpans.find? (·.covers c.toNat) with
    | some span =>
      rw [smallLetter, if_neg ascii, found]
      exact isSmall_of_covers (List.mem_of_find?_eq_some found) (covers_of_find? found)
    | none =>
      have kept : smallLetter c = c := by
        rw [smallLetter, if_neg ascii, found]
      rw [kept]
      refine ⟨notSigma, ?_⟩
      rw [lowerChar, if_neg notDotted, kept]

/-- All characters of a lower case are small. -/
theorem isSmall_of_mem_lowerCase {text : List Char} : ∀ c ∈ lowerCase text, IsSmall c := by
  have after : ∀ before, ∀ c ∈ lowerAfter before text, IsSmall c := by
    induction text with
    | nil => exact fun _ => by simp [lowerAfter]
    | cons d text inductionHypothesis =>
      intro before c member
      rw [lowerAfter, List.mem_append] at member
      rcases member with here | later
      · split at here
        · have isSigma : c = 'ς' ∨ c = 'σ' := by
            split at here
            · exact .inl (List.mem_singleton.1 here)
            · exact .inr (List.mem_singleton.1 here)
          rcases isSigma with rfl | rfl <;> decide
        · next notSigma =>
          rw [lowerChar] at here
          split at here
          · have isPart : c = 'i' ∨ c = '\u0307' := by simpa using here
            rcases isPart with rfl | rfl <;> decide
          · next notDotted =>
            rw [List.mem_singleton.1 here]
            exact isSmall_smallLetter notSigma notDotted
      · exact inductionHypothesis _ c later
  exact after []

/-- A text of small characters is its own lower case. -/
theorem lowerCase_of_isSmall {text : List Char} (small : ∀ c ∈ text, IsSmall c) :
    lowerCase text = text := by
  have after : ∀ before, lowerAfter before text = text := by
    induction text with
    | nil => exact fun _ => rfl
    | cons c text inductionHypothesis =>
      rcases List.forall_mem_cons.1 small with ⟨⟨notSigma, kept⟩, small⟩
      intro before
      rw [lowerAfter, if_neg notSigma, kept, inductionHypothesis small]
      rfl
  exact after []

/-- The lower case of a text is its own lower case. -/
@[simp]
theorem lowerCase_lowerCase (text : List Char) : lowerCase (lowerCase text) = lowerCase text :=
  lowerCase_of_isSmall isSmall_of_mem_lowerCase

end Folio.Unicode
