import GrammarLang.Unicode.Ranges

/-! # Blank characters

The characters that separate words: **`isBlank`**. The blanks of plain text are among them
(`isBlank_of_isWhitespace`). -/

namespace GrammarLang.Unicode

/-- Ranges of the blanks. -/
def blankRanges : Ranges :=
  [(0x9, 0xD), (0x20, 0x20), (0x85, 0x85), (0xA0, 0xA0), (0x1680, 0x1680), (0x2000, 0x200A),
   (0x2028, 0x2029), (0x202F, 0x202F), (0x205F, 0x205F), (0x3000, 0x3000)]

/-- Whether a character is a blank. -/
def isBlank (c : Char) : Bool := blankRanges.contains c.toNat

/-- Spaces, tabs and line ends are blanks. -/
theorem isBlank_of_isWhitespace {c : Char} (h : c.isWhitespace = true) : isBlank c = true := by
  simp only [Char.isWhitespace, Bool.or_eq_true, decide_eq_true_eq] at h
  rcases h with ((rfl | rfl) | rfl) | rfl <;> decide

end GrammarLang.Unicode
