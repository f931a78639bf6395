/-!
# Ranges of code points

A Unicode property is listed as the ranges of code points that have it, in ascending order.
The lists in the sibling modules start at U+0080 wherever the ASCII part of the property is
given by a rule of its own.
-/

namespace Folio.Unicode

/-- Whether a code point lies in one of the ranges. The ranges are in ascending order, so the
search stops at the first range that starts above the code point. -/
def inRanges : List (Nat × Nat) → Nat → Bool
  | [], _ => false
  | (first, last) :: rest, point =>
    if point < first then false else point ≤ last || inRanges rest point

@[simp]
theorem inRanges_nil (point : Nat) : inRanges [] point = false :=
  rfl

theorem inRanges_cons (first last : Nat) (rest : List (Nat × Nat)) (point : Nat) :
    inRanges ((first, last) :: rest) point =
      if point < first then false else point ≤ last || inRanges rest point :=
  rfl

end Folio.Unicode
