import TextCursor.Calculator.Token
import TextCursor.Decimal.Numeral
import TextCursor.Lexer

/-!
# The lexer of arithmetic expressions

A number is a row of digits, a point and another row of digits, where either row or
the point and what follows it may be missing.  A lone point is no number: what was
read of it is given back.
-/

namespace TextCursor.Calculator

open Cursor

/-- Read what may be a number: digits, and with a point the digits behind it. -/
def attempt (cursor : Cursor) : String × Cursor :=
  let whole := cursor.takeWhile (.ofClass .digit)
  let point := whole.2.acceptClass .dot
  if point.1 then
    let fraction := point.2.takeWhile (.ofClass .digit)
    (whole.1 ++ "." ++ fraction.1, fraction.2)
  else (whole.1, point.2)

/-- Read a number; give everything back if there is none. -/
def readNumber (offset : Int) (cursor : Cursor) : Option Token × Cursor :=
  let whole := attempt cursor
  match Decimal.read? whole.1 with
  | some value => (some (.number value offset), whole.2)
  | none => (none, whole.2.rewind cursor.position)

/-- Read an operator or bracket. -/
def readMark (offset : Int) (cursor : Cursor) : Option Token × Cursor :=
  match cursor.peek?.bind Mark.ofChar? with
  | some mark => (some (.mark mark offset), cursor.next.2)
  | none => (none, cursor)

/-- A token together with the report that it was found. -/
def report (token : Token) : List (Finding Token) :=
  [.event (.tokenFound token), .token token]

theorem attempt_since (cursor : Cursor) :
    Since cursor.position (attempt cursor).2 ∧ (attempt cursor).2.source = cursor.source := by
  have whole := (Since.refl cursor).readRun (.ofClass .digit) true ()
  have wholeFollows := follows_readRun cursor (.ofClass .digit) true ()
  have point := whole.acceptAny [CharClass.dot.name]
  have pointFollows := (follows_acceptAny _ [CharClass.dot.name]).trans wholeFollows
  unfold attempt
  dsimp only
  split
  · exact ⟨point.readRun (.ofClass .digit) true (),
      (follows_readRun _ (.ofClass .digit) true ()).source_eq.trans pointFollows.source_eq⟩
  · exact ⟨point, pointFollows.source_eq⟩

/-- An attempt that reads something moves. -/
theorem attempt_moves {cursor : Cursor} (some : (attempt cursor).1 ≠ "") :
    cursor.position < (attempt cursor).2.position := by
  have wholeFollows := follows_readRun cursor (.ofClass .digit) true ()
  unfold attempt at some ⊢
  dsimp only at some ⊢
  split <;> rename_i accepted
  · have fractionFollows := follows_readRun
      ((cursor.takeWhile (.ofClass .digit)).2.acceptClass .dot).2 (.ofClass .digit) true ()
    exact Int.lt_of_lt_of_le
      (Int.lt_of_le_of_lt wholeFollows.position_le (position_lt_acceptAny accepted))
      fractionFollows.position_le
  · rw [if_neg accepted] at some
    have pointFollows :=
      follows_acceptAny (cursor.takeWhile (.ofClass .digit)).2 [CharClass.dot.name]
    exact Int.lt_of_lt_of_le (position_lt_readRun some) pointFollows.position_le

theorem readNumber_since (offset : Int) (cursor : Cursor) :
    Since cursor.position (readNumber offset cursor).2 ∧
      (readNumber offset cursor).2.source = cursor.source := by
  obtain ⟨since, source⟩ := attempt_since cursor
  unfold readNumber
  dsimp only
  split
  · exact ⟨since, source⟩
  · exact ⟨since.rewind, (source_rewind _ _).trans source⟩

theorem readNumber_moves (offset : Int) (cursor : Cursor)
    (recognised : (readNumber offset cursor).1.isSome = true) :
    cursor.position < (readNumber offset cursor).2.position := by
  unfold readNumber at recognised ⊢
  dsimp only at recognised ⊢
  split at recognised
  · rename_i value numeral
    apply attempt_moves
    intro empty
    rw [empty, Decimal.read?_empty] at numeral
    cases numeral
  · cases recognised

/-- The recogniser of numbers. -/
def number : Recogniser Token where
  run offset cursor := ((readNumber offset cursor).1.map report, (readNumber offset cursor).2)
  follows offset cursor :=
    ⟨(readNumber_since offset cursor).2, (readNumber_since offset cursor).1.position_le⟩
  moves offset cursor recognised :=
    readNumber_moves offset cursor (by simpa using recognised)

theorem readMark_follows (offset : Int) (cursor : Cursor) :
    Follows (readMark offset cursor).2 cursor := by
  unfold readMark
  split
  · exact follows_next cursor
  · exact Follows.refl cursor

theorem readMark_moves (offset : Int) (cursor : Cursor)
    (recognised : (readMark offset cursor).1.isSome = true) :
    cursor.position < (readMark offset cursor).2.position := by
  unfold readMark at recognised ⊢
  split at recognised
  · rename_i mark spelled
    obtain ⟨char, peeked, _⟩ := Option.bind_eq_some_iff.1 spelled
    unfold Cursor.peek? Source.charAt? at peeked
    split at peeked
    · rename_i inside
      have before : cursor.position < cursor.source.length := by omega
      show cursor.position < cursor.skip.position
      rw [skip, if_pos before]
      exact Int.lt_succ cursor.position
    · cases peeked
  · cases recognised

/-- The recogniser of operators and brackets. -/
def mark : Recogniser Token where
  run offset cursor := ((readMark offset cursor).1.map report, (readMark offset cursor).2)
  follows := readMark_follows
  moves offset cursor recognised := readMark_moves offset cursor (by simpa using recognised)

/-- The lexer of arithmetic expressions. -/
def lexer : Lexer Token where
  recogniser := number.orElse mark
  endToken := .eof

/-- The tokens of an arithmetic expression. -/
def tokens (text : String) : List Token := lexer.tokens text

/-- The events of reading an arithmetic expression. -/
def events (text : String) : List (Report Token) := lexer.events text

end TextCursor.Calculator
