import TextCursor.Text.WhiteSpace
import TextCursor.Text.DecimalDigit
import TextCursor.Text.Word

/-!
# Sets of characters in patterns

A set lists ranges and properties, may ignore the case of letters, and may stand
for its complement.
-/

namespace TextCursor.Pattern

/-- A property of characters that a pattern can name. -/
inductive Property where
  | digit
  | space
  | word
  deriving DecidableEq, Repr

/-- Whether a character has the property. -/
def Property.holds (kind : Property) (char : Char) : Bool :=
  match kind with
  | .digit => Text.isDecimalDigit char
  | .space => Text.isWhiteSpace char
  | .word => Text.isWordCharacter char

/-- One entry of a set. -/
inductive Member where
  /-- The characters from `first` to `last`, both included. -/
  | range (first last : Char)
  /-- The characters that have a property, or that lack it. -/
  | property (kind : Property) (present : Bool)
  deriving DecidableEq, Repr

namespace Member

/-- The entry for one character. -/
def single (char : Char) : Member := .range char char

/-- Whether a character belongs to the entry. -/
def contains : Member → Char → Bool
  | .range first last, char => first ≤ char && char ≤ last
  | .property kind present, char => kind.holds char == present

@[simp] theorem contains_single (char other : Char) :
    (single char).contains other = decide (char = other) := by
  rw [Bool.eq_iff_iff]
  simp only [single, contains, Bool.and_eq_true, decide_eq_true_eq]
  constructor
  · rintro ⟨first, last⟩
    exact Char.le_antisymm first last
  · rintro rfl
    exact ⟨Char.le_refl _, Char.le_refl _⟩

end Member

/-- A set of characters. -/
structure CharSet where
  /-- The entries of the set. -/
  members : List Member
  /-- Whether a letter stands for both of its cases. -/
  ignoreCase : Bool := false
  /-- Whether the set stands for its complement. -/
  negated : Bool := false
  deriving DecidableEq, Repr

namespace CharSet

/-- The set of one character. -/
def single (char : Char) : CharSet := { members := [Member.single char] }

/-- Every character except the line feed. -/
def anyButLineFeed : CharSet := { members := [Member.single '\n'], negated := true }

/-- The letters outside ASCII whose other case is an ASCII letter, with that
letter in lower case: the Kelvin sign and the long s. -/
def outsideCases : List (Char × Char) := [('\u212A', 'k'), ('\u017F', 's')]

/-- A character and the characters that differ from it only in case. -/
def caseVariants (char : Char) : List Char :=
  let lower := ((outsideCases.find? (·.1 = char)).map (·.2)).getD char.toLower
  char :: lower :: lower.toUpper :: (outsideCases.filter (·.2 = lower)).map (·.1)

/-- Whether some entry of the set holds the character. -/
def lists (set : CharSet) (char : Char) : Bool :=
  set.members.any (·.contains char)

/-- Whether a character belongs to the set. -/
def contains (set : CharSet) (char : Char) : Bool :=
  (if set.ignoreCase then (caseVariants char).any set.lists else set.lists char) != set.negated

@[simp] theorem contains_single (char other : Char) :
    (single char).contains other = decide (char = other) := by
  simp [single, contains, lists]

end CharSet

end TextCursor.Pattern
