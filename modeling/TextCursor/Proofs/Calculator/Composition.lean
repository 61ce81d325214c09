import TextCursor.Proofs.Calculator.MaximalMunch
import TextCursor.Proofs.Lexer.Composition

/-!
# Arithmetic expressions in two halves

Neither a numeral nor an operator reaches over white space, and a failed number leaves
nothing behind that a later one could find.  So two texts with white space between them,
whatever they are, have the tokens of the first text, and then those of the second one with
their places moved behind it (`tokens_separated_by_blank`).
-/

namespace TextCursor.Calculator

open Decimal

/-- The token of a text that stands further on. -/
def Token.shift (distance : Int) : Token → Token
  | .number value place => .number value (place + distance)
  | .mark spelled place => .mark spelled (place + distance)
  | .eof place => .eof (place + distance)

/-! ## The first half -/

variable {cut : Finding Token → Bool}

/-- What is munched ends before white space. -/
theorem munch_append_of_blankFirst {rest : List Char} (blank : BlankFirst rest)
    (chars : List Char) : munch (chars ++ rest) = munch chars := by
  apply munch_append_of_stop
  intro char first
  have white := blank char first
  constructor
  · rw [← Bool.not_eq_true]
    intro digit
    rw [Text.isWhiteSpace_of_isDigit digit] at white
    cases white
  · rintro rfl
    cases white

theorem separable_numerals : numerals.Separable cut := by
  intro place char chars rest blank whole
  simp only [numerals, Numeral.longest?_eq, munch_append_of_blankFirst blank]

theorem separable_marks : marks.Separable cut := by
  intro place char chars rest blank whole
  rfl

theorem separable_scanner : scanner.Separable cut :=
  separable_numerals.orElse separable_marks

/-! ## The second half -/

variable {distance : Int}

theorem shifts_numerals : numerals.Shifts Token.shift distance := by
  intro place chars
  simp only [numerals]
  cases Numeral.longest? chars with
  | none => rfl
  | some numeral => rfl

theorem shifts_marks : marks.Shifts Token.shift distance := by
  intro place chars
  simp only [marks]
  cases chars.head?.bind (List.lookup · operators) with
  | none => rfl
  | some spelled => rfl

theorem shifts_scanner : scanner.Shifts Token.shift distance :=
  shifts_numerals.orElse shifts_marks

/-! ## Both halves -/

/-- A text with a second one behind white space has the tokens of the first one, but for the
token of its end, and behind them those of the second one, moved to their places.  It has the
reports of the first one and behind them those of the second one, moved likewise. -/
theorem tokens_separated_by_blank (before after : String) {blanks : String}
    (present : blanks ≠ "") (blank : ∀ char ∈ blanks.toList, Text.isWhiteSpace char = true) :
    ∃ proper, tokens before = proper ++ [.eof before.length] ∧
      tokens (before ++ blanks ++ after) =
        proper ++ (tokens after).map (Token.shift (before ++ blanks).length) ∧
      events (before ++ blanks ++ after) =
        events before ++
          (events after).map (Report.shift Token.shift (before ++ blanks).length) := by
  -- nothing is ever cut off: a text may end within a numeral, or be nothing but points
  have whole : (lexer.findings before).any (fun _ => false) = false :=
    List.any_eq_false.2 fun _ _ => Bool.false_ne_true
  have bounded : scanner.BoundedUnless fun _ => false := fun read _ => bounded_scanner read
  obtain ⟨found, same, joined⟩ := Lexer.findings_append_blank_append realises_scanner
    separable_scanner bounded shifts_scanner (fun _ => rfl) present blank whole
    after
  exact Lexer.exists_tokens_of_findings same joined

/-- A number that ends in a point and a second point that begins none, an ideographic space, and
digits that the first point could have been followed by. -/
theorem tokens_separated_by_blank_points :
    "\u3000" ≠ "" ∧ (∀ char ∈ "\u3000".toList, Text.isWhiteSpace char = true) ∧
      ∃ proper, tokens "1.." = proper ++ [.eof "1..".length] ∧
        tokens ("1.." ++ "\u3000" ++ "5é+") =
          proper ++ (tokens "5é+").map (Token.shift ("1.." ++ "\u3000").length) ∧
        events ("1.." ++ "\u3000" ++ "5é+") =
          events "1.." ++
            (events "5é+").map (Report.shift Token.shift ("1.." ++ "\u3000").length) := by
  have blank : ∀ char ∈ "\u3000".toList, Text.isWhiteSpace char = true :=
    List.all_eq_true.1 (show "\u3000".toList.all Text.isWhiteSpace = true from rfl)
  exact ⟨by decide, blank, tokens_separated_by_blank "1.." "5é+" (by decide) blank⟩

end TextCursor.Calculator
