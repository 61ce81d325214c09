import TextCursor.Text.CodePoints

/-!
# White space

The characters with the Unicode property `White_Space`: the blanks and line ends
of ASCII, the next-line control, the no-break space and the typographic spaces.
Zero-width characters do not count.
-/

namespace TextCursor.Text

/-- The code points of white space. -/
def whiteSpace : CodePoints :=
  [ (0x9, 0xD), (0x20, 0x20), (0x85, 0x85), (0xA0, 0xA0), (0x1680, 0x1680), (0x2000, 0x200A),
    (0x2028, 0x2029), (0x202F, 0x202F), (0x205F, 0x205F), (0x3000, 0x3000) ]

/-- Whether a character is white space. -/
def isWhiteSpace (char : Char) : Bool := whiteSpace.contains char

/-- No digit of ASCII is white space. -/
theorem isWhiteSpace_of_isDigit {char : Char} (digit : char.isDigit = true) :
    isWhiteSpace char = false := by
  simp only [Char.isDigit, Bool.and_eq_true, decide_eq_true_eq] at digit
  have least : 48 ≤ char.toNat := digit.1
  have greatest : char.toNat ≤ 57 := digit.2
  simp only [isWhiteSpace, whiteSpace, CodePoints.contains, List.any_cons,
    List.any_nil, Bool.or_false, Bool.or_eq_false_iff, Bool.and_eq_false_iff,
    decide_eq_false_iff_not]
  omega

end TextCursor.Text
