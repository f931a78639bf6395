import Folio.Unicode.Ranges

/-!
# Blank characters

The characters with the Unicode property White_Space. Every pass that splits or trims at
"whitespace" means this class.
-/

namespace Folio.Unicode

/-- The code points with the property White_Space. -/
def blankRanges : List (Nat × Nat) :=
  [(0x9, 0xD), (0x20, 0x20), (0x85, 0x85), (0xA0, 0xA0), (0x1680, 0x1680), (0x2000, 0x200A),
   (0x2028, 0x2029), (0x202F, 0x202F), (0x205F, 0x205F), (0x3000, 0x3000)]

/-- Whether a character is whitespace. -/
def isBlank (c : Char) : Bool :=
  inRanges blankRanges c.toNat

@[simp]
theorem isBlank_space : isBlank ' ' = true := by decide

@[simp]
theorem isBlank_tab : isBlank '\t' = true := by decide

@[simp]
theorem isBlank_newline : isBlank '\n' = true := by decide

end Folio.Unicode
