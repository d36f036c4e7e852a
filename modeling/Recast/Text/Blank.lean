/-!
Blank characters: the code points with the Unicode `White_Space` property.

The table holds the twenty-five characters of that property: the five ASCII controls from tab
to carriage return, the space, next line, no-break space, ogham space mark, the eleven spaces
from en quad to hair space, the line and paragraph separators, the narrow no-break space, the
medium mathematical space and the ideographic space. Zero-width space and the byte order mark
are not blanks.
-/

namespace Recast.Text

/-- The ranges of code points with the `White_Space` property. -/
def blankRanges : List (Nat × Nat) :=
  [(0x09, 0x0D), (0x20, 0x20), (0x85, 0x85), (0xA0, 0xA0), (0x1680, 0x1680), (0x2000, 0x200A),
   (0x2028, 0x2029), (0x202F, 0x202F), (0x205F, 0x205F), (0x3000, 0x3000)]

/-- Whether a character is blank. -/
def isBlank (c : Char) : Bool :=
  blankRanges.any fun range => range.1 ≤ c.toNat && c.toNat ≤ range.2

/-- Every character that core Lean calls whitespace is blank here too. -/
theorem isBlank_of_isWhitespace (c : Char) (white : c.isWhitespace = true) : isBlank c = true := by
  simp only [Char.isWhitespace, Bool.or_eq_true, decide_eq_true_eq] at white
  simp only [isBlank, blankRanges, List.any_cons, List.any_nil, Bool.or_eq_true,
    Bool.and_eq_true, decide_eq_true_eq, Bool.or_false]
  rcases white with ((space | tab) | carriage) | newline
  · right; left; simp [space]
  · left; simp [tab]
  · left; simp [carriage]
  · left; simp [newline]

example : isBlank (Char.ofNat 0x3000) = true ∧ isBlank (Char.ofNat 0x200B) = false ∧
    isBlank (Char.ofNat 0xFEFF) = false := by decide

end Recast.Text
