import Folio.Text.Utf8
import Mathlib.Data.Char
import Mathlib.Data.List.Lex
import Mathlib.Tactic.SplitIfs

/-!
# The order of texts and of their octets

Texts are compared character by character, and octets octet by octet. The two orders are the same:
of two characters the smaller one has the smaller octets at the first place where they differ, so
octets that follow never decide.
-/

namespace Folio.Text

theorem ofNat_lt_ofNat_iff {m n : Nat} (mSmall : m < 256) (nSmall : n < 256) :
    UInt8.ofNat m < UInt8.ofNat n ↔ m < n := by
  rw [UInt8.lt_iff_toNat_lt, UInt8.toNat_ofNat_of_lt' mSmall, UInt8.toNat_ofNat_of_lt' nSmall]

theorem ofNat_eq_ofNat_iff {m n : Nat} (mSmall : m < 256) (nSmall : n < 256) :
    UInt8.ofNat m = UInt8.ofNat n ↔ m = n := by
  rw [← UInt8.toNat_inj, UInt8.toNat_ofNat_of_lt' mSmall, UInt8.toNat_ofNat_of_lt' nSmall]

theorem toNat_lt (c : Char) : c.toNat < 0x110000 := by
  have valid : c.val.isValidChar := c.valid
  have point : c.toNat = c.val.toNat := rfl
  unfold UInt32.isValidChar Nat.isValidChar at valid
  omega

/-- The octets of two characters are in the order of the characters, whatever follows them. -/
theorem utf8Char_append_lt {c d : Char} (less : c < d) (first second : List UInt8) :
    utf8Char c ++ first < utf8Char d ++ second := by
  have points : c.toNat < d.toNat := less
  have bound := toNat_lt d
  unfold utf8Char
  dsimp only
  generalize c.toNat = m at *
  generalize d.toNat = n at *
  -- One case for each pair of lengths; a longer form has the greater first octet.
  split_ifs <;>
    simp (disch := omega) only [List.cons_append, List.nil_append, List.cons_lt_cons_iff,
      ofNat_lt_ofNat_iff, ofNat_eq_ofNat_iff] <;>
    omega

theorem utf8Char_ne_nil (c : Char) : utf8Char c ≠ [] := by
  unfold utf8Char
  dsimp only
  split_ifs <;> simp

theorem toUtf8_lt_of_lt {first second : Text} (less : first < second) :
    toUtf8 first < toUtf8 second := by
  rw [← List.lex_lt] at less
  induction less with
  | @nil d second =>
    have nonempty : toUtf8 (d :: second) ≠ [] := by simp [toUtf8, utf8Char_ne_nil]
    obtain ⟨octet, octets, same⟩ := List.exists_cons_of_ne_nil nonempty
    rw [same]
    exact List.nil_lt_cons octet octets
  | rel less => exact utf8Char_append_lt less _ _
  | cons _ inductionHypothesis => exact List.append_left_lt inductionHypothesis

/-- The octets of two texts are in the order of the texts. -/
theorem toUtf8_lt_iff {first second : Text} : toUtf8 first < toUtf8 second ↔ first < second := by
  constructor
  · intro less
    rcases lt_trichotomy first second with before | rfl | after
    · exact before
    · exact absurd less (List.lt_irrefl _)
    · exact absurd (toUtf8_lt_of_lt after) (List.lt_asymm less)
  · exact toUtf8_lt_of_lt

/-- Two texts stand in the same order as their octets, also where they may be equal. -/
theorem toUtf8_le_iff {first second : Text} : toUtf8 first ≤ toUtf8 second ↔ first ≤ second := by
  rw [← List.not_lt, ← not_lt, toUtf8_lt_iff]

end Folio.Text
