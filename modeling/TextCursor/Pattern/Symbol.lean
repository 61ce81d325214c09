import TextCursor.Pattern.CharSet

/-!
# The symbols of a pattern

The first reading of a pattern resolves what stands behind a backslash.  A plain
character is left for the grammar to interpret, an escaped one stands for itself,
and some letters behind a backslash name a property of characters or an end of the
text.
-/

namespace TextCursor.Pattern

/-- Why a pattern cannot be read. -/
inductive SyntaxError where
  /-- A backslash ends the pattern. -/
  | danglingBackslash
  /-- A backslash stands before a character that it cannot escape. -/
  | unknownEscape
  /-- The digits of an escaped code point are missing, malformed or out of range. -/
  | invalidCodePoint
  /-- A set in square brackets is not closed. -/
  | unclosedSet
  /-- A range in a set has an end that is not a character, or runs backwards. -/
  | invalidRange
  /-- A set uses a nested set or an operation on sets. -/
  | unsupportedSet
  /-- A repetition count is malformed or its bounds are reversed. -/
  | invalidCount
  /-- A repetition stands where there is nothing to repeat. -/
  | nothingToRepeat
  /-- What follows the question mark of a group is not supported. -/
  | unsupportedGroup
  /-- A parenthesis is opened and not closed. -/
  | unclosedGroup
  /-- A parenthesis is closed and was not opened. -/
  | unopenedGroup
  deriving DecidableEq, Repr

/-- A character or an escape of a pattern. -/
inductive Symbol where
  /-- A character without a backslash. -/
  | plain (char : Char)
  /-- A character that stands for itself. -/
  | escaped (char : Char)
  /-- A property that a character has or lacks. -/
  | property (kind : Property) (present : Bool)
  /-- The start of the whole text. -/
  | textStart
  /-- The end of the whole text. -/
  | textEnd
  deriving DecidableEq, Repr

namespace Symbol

/-- The value of a hexadecimal digit. -/
def hexValue? (char : Char) : Option Nat :=
  if char.isDigit then some (char.toNat - '0'.toNat)
  else if 'a' ≤ char ∧ char ≤ 'f' then some (char.toNat - 'a'.toNat + 10)
  else if 'A' ≤ char ∧ char ≤ 'F' then some (char.toNat - 'A'.toNat + 10)
  else none

/-- The character whose code point the hexadecimal digits spell. -/
def ofHex? (digits : List Char) : Except SyntaxError Char := do
  let step (value : Option Nat) (digit : Char) : Option Nat := do
    pure (16 * (← value) + (← hexValue? digit))
  match digits.foldl step (if digits.isEmpty then none else some 0) with
  | some code => if code.isValidChar then pure (Char.ofNat code) else throw .invalidCodePoint
  | none => throw .invalidCodePoint

/-- A code point behind a backslash and a letter: a fixed number of digits, or any
number of digits in braces.  The number tells how many characters it takes. -/
def codePoint (width : Nat) (rest : List Char) : Except SyntaxError (Char × Nat) :=
  if rest.head? = some '\x7b' then
    let digits := (rest.drop 1).takeWhile (· ≠ '\x7d')
    if digits.length + 1 < rest.length then do
      pure (← ofHex? digits, digits.length + 2)
    else throw .invalidCodePoint
  else if width ≤ rest.length then do
    pure (← ofHex? (rest.take width), width)
  else throw .invalidCodePoint

/-- Whether a backslash before the character makes it stand for itself: the marks
of ASCII other than the angle brackets. -/
def isEscapable (char : Char) : Bool :=
  char.toNat < 128 && !char.isAlphanum && char ≠ '<' && char ≠ '>'

/-- The symbol that a backslash and the characters after it spell, with the number
of characters it takes behind the backslash. -/
def ofEscape : List Char → Except SyntaxError (Symbol × Nat)
  | [] => throw .danglingBackslash
  | letter :: rest =>
      let number (width : Nat) : Except SyntaxError (Symbol × Nat) := do
        let (char, count) ← codePoint width rest
        pure (.escaped char, count + 1)
      match letter with
      | 'd' => pure (.property .digit true, 1)
      | 'D' => pure (.property .digit false, 1)
      | 's' => pure (.property .space true, 1)
      | 'S' => pure (.property .space false, 1)
      | 'w' => pure (.property .word true, 1)
      | 'W' => pure (.property .word false, 1)
      | 'A' => pure (.textStart, 1)
      | 'z' => pure (.textEnd, 1)
      | 'a' => pure (.escaped '\x07', 1)
      | 'f' => pure (.escaped '\x0c', 1)
      | 'n' => pure (.escaped '\n', 1)
      | 'r' => pure (.escaped '\r', 1)
      | 't' => pure (.escaped '\t', 1)
      | 'v' => pure (.escaped '\x0b', 1)
      | 'x' => number 2
      | 'u' => number 4
      | 'U' => number 8
      | _ => if isEscapable letter then pure (.escaped letter, 1) else throw .unknownEscape

/-- Read the symbols of a pattern, after skipping the characters that belong to a
symbol already read. -/
def readAll : (skip : Nat) → List Char → Except SyntaxError (List Symbol)
  | _, [] => pure []
  | skip + 1, _ :: rest => readAll skip rest
  | 0, char :: rest =>
      if char = '\\' then do
        let (symbol, count) ← ofEscape rest
        pure (symbol :: (← readAll count rest))
      else do
        pure (.plain char :: (← readAll 0 rest))

end Symbol

end TextCursor.Pattern
