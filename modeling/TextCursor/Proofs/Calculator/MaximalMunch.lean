import TextCursor.Calculator.Lexer
import TextCursor.Proofs.Cursor.Rewind
import TextCursor.Proofs.Cursor.StandardClass
import TextCursor.Proofs.Decimal.Numeral
import TextCursor.Proofs.Lexer.Scanner

/-!
# Arithmetic expressions by maximal munch

The lexer of arithmetic expressions moves a cursor back and forth, yet it finds what
a scanner without a cursor finds: at every visible character the longest numeral, or
else an operator or bracket of a table (`operators`), or else a character to skip.  What
carries the proof is that at most one move has to be taken back, and that a history with
any room remembers the last move (`givenBack_rewind_munched`).
-/

namespace TextCursor.Calculator

open Cursor Decimal

/-- Read the longest numeral at the beginning of a text, and report it. -/
def numerals : Scanner Token where
  scan place chars := (Numeral.longest? chars).map fun numeral =>
    ([.event (.tokenFound (.number numeral.value place)), .token (.number numeral.value place)],
      numeral.chars.length)
  count_pos := by
    intro place chars found count read
    obtain ⟨numeral, -, result⟩ := Option.map_eq_some_iff.1 read
    cases result
    apply List.length_pos_iff.2
    intro empty
    exact not_isNumeral_nil (empty ▸ numeral.isNumeral)

/-- The operators and brackets with their characters. -/
def operators : List (Char × Mark) :=
  [ ('+', .plus), ('-', .minus), ('*', .multiply), ('/', .divide), ('^', .power),
    ('(', .leftParen), (')', .rightParen) ]

/-- Read the operator or bracket at the beginning of a text, and report it. -/
def marks : Scanner Token where
  scan place chars := (chars.head?.bind (List.lookup · operators)).map fun mark =>
    ([.event (.tokenFound (.mark mark place)), .token (.mark mark place)], 1)
  count_pos := by
    intro place chars found count read
    obtain ⟨mark, -, result⟩ := Option.map_eq_some_iff.1 read
    cases result
    exact Nat.one_pos

/-- Read the longest numeral, or else an operator or bracket. -/
def scanner : Scanner Token := numerals.orElse marks

/-- Not the token of the end. -/
def Token.IsProper (token : Token) : Prop := ∀ place, token ≠ .eof place

theorem isProper_of_mem {token other : Token} {event : Report Token} (proper : token.IsProper)
    (member : Finding.token other ∈ [.event event, .token token]) : other.IsProper := by
  simp only [List.mem_cons, List.not_mem_nil, or_false, reduceCtorEq, false_or,
    Finding.token.injEq] at member
  rw [member]
  exact proper

theorem bounded_scanner : scanner.Bounded := by
  apply Scanner.Bounded.orElse
  · intro place chars found count read
    obtain ⟨numeral, longest, result⟩ := Option.map_eq_some_iff.1 read
    cases result
    rw [Numeral.longest?_eq] at longest
    rw [(Numeral.ofChars?_eq_some longest).1]
    exact (isPrefix_munch chars).length_le
  · intro place chars found count read
    obtain ⟨mark, spelled, result⟩ := Option.map_eq_some_iff.1 read
    cases result
    cases chars with
    | nil => cases spelled
    | cons char chars => exact Nat.succ_le_succ (Nat.zero_le _)

theorem yields_scanner : scanner.Yields Token.IsProper := by
  apply Scanner.Yields.orElse
  · intro place chars found count read
    obtain ⟨numeral, -, result⟩ := Option.map_eq_some_iff.1 read
    cases result
    intro token member
    apply isProper_of_mem _ member
    intro place
    exact Token.noConfusion
  · intro place chars found count read
    obtain ⟨mark, -, result⟩ := Option.map_eq_some_iff.1 read
    cases result
    intro token member
    apply isProper_of_mem _ member
    intro place
    exact Token.noConfusion

/-! ## Numbers -/

/-- The cursor behind the digits and the point that are ahead. -/
def munched (cursor : Cursor) : Cursor :=
  let whole := cursor.pass (cursor.ahead.takeWhile Char.isDigit).length
  match cursor.ahead.dropWhile Char.isDigit with
  | '.' :: rest => (whole.consume 1).pass (rest.takeWhile Char.isDigit).length
  | _ => whole

variable {cursor : Cursor}

theorem munched_of_point {rest : List Char}
    (point : cursor.ahead.dropWhile Char.isDigit = '.' :: rest) :
    munched cursor =
      ((cursor.pass (cursor.ahead.takeWhile Char.isDigit).length).consume 1).pass
        (rest.takeWhile Char.isDigit).length := by
  rw [munched, point]
  rfl

theorem munched_of_other (other : (cursor.ahead.dropWhile Char.isDigit).head? ≠ some '.') :
    munched cursor = cursor.pass (cursor.ahead.takeWhile Char.isDigit).length := by
  rw [munched]
  split
  · rename_i rest point
    rw [point] at other
    exact absurd rfl other
  · rfl

theorem advanced_munched (cursor : Cursor) :
    Advanced (munched cursor) cursor (munch cursor.ahead).length := by
  have whole := advanced_pass cursor (cursor.ahead.takeWhile Char.isDigit).length
  rcases munch_cases cursor.ahead with ⟨rest, point, munch⟩ | ⟨other, munch⟩
  · rw [munched_of_point point, munch, List.length_append, List.length_cons]
    have dot := (advanced_consume _ 1).trans whole
    have fraction := (advanced_pass _ (rest.takeWhile Char.isDigit).length).trans dot
    rw [Nat.add_assoc, Nat.add_comm 1] at fraction
    exact fraction
  · rw [munched_of_other other, munch]
    exact whole

/-- Where no numeral is ahead, nothing has been consumed, or no more than a point. -/
theorem munched_of_missing (missing : ¬ IsNumeral (munch cursor.ahead)) :
    munched cursor = cursor ∨ munched cursor = cursor.consume 1 := by
  rcases munch_cases cursor.ahead with ⟨rest, point, munch⟩ | ⟨other, munch⟩
  · have only := onlyDigits_takeWhile cursor.ahead
    have fractionOnly := onlyDigits_takeWhile rest
    rw [munch] at missing
    have digits : cursor.ahead.takeWhile Char.isDigit = [] := by
      apply Classical.byContradiction
      intro present
      exact missing (.point present only fractionOnly)
    have fraction : rest.takeWhile Char.isDigit = [] := by
      apply Classical.byContradiction
      intro present
      rw [digits] at missing
      exact missing (.fraction present fractionOnly)
    rw [munched_of_point point, digits, fraction]
    exact .inr rfl
  · rw [munch] at missing
    have digits : cursor.ahead.takeWhile Char.isDigit = [] := by
      apply Classical.byContradiction
      intro present
      exact missing (.whole present (onlyDigits_takeWhile _))
    rw [munched_of_other other, digits]
    exact .inl rfl

/-- What was consumed where no numeral is ahead can be given back. -/
theorem givenBack_rewind_munched (room : 0 < cursor.history.capacity)
    (missing : ¬ IsNumeral (munch cursor.ahead)) :
    GivenBack cursor (munched cursor) ((munched cursor).rewind cursor.position) := by
  rcases munched_of_missing missing with same | moved
  · rw [same, rewind_position]
    exact .refl cursor
  · rw [moved, rewind_consume room Nat.one_pos]
    exact .undo_consume room Nat.one_pos

/-- An attempt reads what is munched. -/
theorem attempt_eq (registry : cursor.registry = Registry.standard) :
    attempt cursor = (String.ofList (munch cursor.ahead), munched cursor) := by
  have moved := advanced_pass cursor (cursor.ahead.takeWhile Char.isDigit).length
  have later := moved.registry_eq.trans registry
  have behind := ahead_pass (length_ahead cursor ▸
    (List.takeWhile_prefix (l := cursor.ahead) Char.isDigit).length_le)
  rw [drop_length_takeWhile] at behind
  have dot := acceptClass_dot later
  rw [behind] at dot
  rcases munch_cases cursor.ahead with ⟨rest, point, munch⟩ | ⟨other, munch⟩
  · rw [point, List.head?_cons, if_pos rfl] at dot
    have fraction := takeWhile_digit ((advanced_consume _ 1).registry_eq.trans later)
    rw [ahead_consume_one (behind.trans point)] at fraction
    rw [munched_of_point point, munch]
    simp only [attempt, takeWhile_digit registry, dot, fraction, if_true, Prod.mk.injEq, and_true]
    rw [← String.toList_inj]
    simp
  · rw [if_neg other] at dot
    rw [munch, munched_of_other other]
    simp only [attempt, takeWhile_digit registry, dot, Bool.false_eq_true, if_false]

/-- Reading a number reads what is munched, and gives it back if it is no numeral. -/
theorem readNumber_eq (registry : cursor.registry = Registry.standard) (place : Int) :
    readNumber place cursor =
      match readChars? (munch cursor.ahead) with
      | some value => (some (.number value place), munched cursor)
      | none => (none, (munched cursor).rewind cursor.position) := by
  unfold readNumber
  cases value : readChars? (munch cursor.ahead) <;>
    simp only [attempt_eq registry, read?, String.toList_ofList, value]

theorem realises_number : number.Realises numerals := by
  intro place cursor lexing
  simp only [numerals, number, Numeral.longest?_eq, readNumber_eq lexing.registry_eq]
  cases found : Numeral.ofChars? (munch cursor.ahead) with
  | some numeral =>
      obtain ⟨same, read⟩ := Numeral.ofChars?_eq_some found
      simp only [read, same, Option.map_some]
      exact ⟨rfl, advanced_munched cursor⟩
  | none =>
      have missing : ¬ IsNumeral (munch cursor.ahead) := by
        rw [← Numeral.isSome_ofChars?, found]
        exact Bool.false_ne_true
      simp only [Numeral.ofChars?_eq_none found, Option.map_none]
      exact ⟨trivial, (givenBack_rewind_munched lexing.room missing).advanced⟩

/-! ## Operators and brackets -/

/-- The marks that the lexer knows are those of the table. -/
theorem ofChar?_eq_lookup : Mark.ofChar? = (List.lookup · operators) := by
  funext char
  unfold Mark.ofChar?
  split
  case h_8 =>
    rw [eq_comm, List.lookup_eq_none_iff]
    simp_all [operators]
  all_goals rfl

theorem realises_mark : mark.Realises marks := by
  intro place cursor lexing
  simp only [marks, mark, readMark, peek?_eq, ofChar?_eq_lookup]
  cases spelled : cursor.ahead.head?.bind (List.lookup · operators) with
  | some mark =>
      obtain ⟨char, first, -⟩ := Option.bind_eq_some_iff.1 spelled
      obtain ⟨chars, ahead⟩ := List.head?_eq_some_iff.1 first
      exact ⟨rfl, (next_of_ahead ahead).2⟩
  | none => exact ⟨rfl, Advanced.refl cursor⟩

/-! ## The lexer -/

theorem realises_scanner : lexer.recogniser.Realises scanner :=
  realises_number.orElse realises_mark

end TextCursor.Calculator
