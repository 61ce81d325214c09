import TextCursor.Json.Token
import TextCursor.Lexer

/-!
# The lexer of JSON texts

A string is read in pieces that end at a quotation mark or a backslash.  A string
that the end of the text cuts off is still a token, and is reported.  A number needs
a digit behind its sign, and digits may be missing behind its point and in its
exponent.
-/

namespace TextCursor.Json

open Cursor

/-! ## Punctuation and keywords -/

/-- The punctuation marks with the names of their classes, in the order in which they
are tried; the comma has no class and is a text. -/
def punctuationNames : List (String × Punctuation) :=
  [ (CharClass.leftCurlyBracket.name, .leftBrace), (CharClass.rightCurlyBracket.name, .rightBrace),
    (CharClass.leftSquareBracket.name, .leftBracket),
    (CharClass.rightSquareBracket.name, .rightBracket), (CharClass.colon.name, .colon),
    (",", .comma) ]

/-- The keywords with their tokens, in the order in which they are tried. -/
def keywords : List (String × (Int → Token)) :=
  [("true", .boolean true), ("false", .boolean false), ("null", .null)]

/-- Consume what the first fitting name of a table covers, and give the entry that
stands for it. -/
def acceptFirst {β : Type} (cursor : Cursor) : List (String × β) → Option β × Cursor
  | [] => (none, cursor)
  | (name, entry) :: entries =>
      let accepted := cursor.accept name
      if accepted.1 then (some entry, accepted.2) else acceptFirst accepted.2 entries

theorem acceptFirst_follows {β : Type} (cursor : Cursor) (entries : List (String × β)) :
    Follows (acceptFirst cursor entries).2 cursor := by
  induction entries generalizing cursor with
  | nil => exact Follows.refl cursor
  | cons entry entries ih =>
      have follows := follows_acceptAny cursor [entry.1]
      unfold acceptFirst
      dsimp only
      split
      · exact follows
      · exact (ih _).trans follows

theorem acceptFirst_moves {β : Type} (cursor : Cursor) (entries : List (String × β))
    (recognised : (acceptFirst cursor entries).1.isSome = true) :
    cursor.position < (acceptFirst cursor entries).2.position := by
  induction entries generalizing cursor with
  | nil => cases recognised
  | cons entry entries ih =>
      have follows := follows_acceptAny cursor [entry.1]
      unfold acceptFirst at recognised ⊢
      dsimp only at recognised ⊢
      split
      · rename_i accepted
        exact position_lt_acceptAny accepted
      · rename_i refused
        rw [if_neg refused] at recognised
        exact Int.lt_of_le_of_lt follows.position_le (ih _ recognised)

/-- Read a punctuation mark. -/
def readPunctuation (offset : Int) (cursor : Cursor) : Option Token × Cursor :=
  let accepted := acceptFirst cursor punctuationNames
  (accepted.1.map fun mark => .punctuation mark offset, accepted.2)

/-- Read a truth value or null. -/
def readKeyword (offset : Int) (cursor : Cursor) : Option Token × Cursor :=
  let accepted := acceptFirst cursor keywords
  (accepted.1.map fun token => token offset, accepted.2)

/-- A token without any report. -/
def silently (result : Option Token × Cursor) : Option (List (Finding Token)) × Cursor :=
  (result.1.map fun token => [.token token], result.2)

/-- The recogniser of punctuation marks. -/
def punctuation : Recogniser Token where
  run offset cursor := silently (readPunctuation offset cursor)
  follows _ cursor := acceptFirst_follows cursor punctuationNames
  moves _ cursor recognised :=
    acceptFirst_moves cursor punctuationNames
      (by simpa [silently, readPunctuation] using recognised)

/-- The recogniser of keywords. -/
def keyword : Recogniser Token where
  run offset cursor := silently (readKeyword offset cursor)
  follows _ cursor := acceptFirst_follows cursor keywords
  moves _ cursor recognised :=
    acceptFirst_moves cursor keywords (by simpa [silently, readKeyword] using recognised)

/-! ## Strings -/

/-- A quotation mark or a backslash. -/
def stringStop : Pattern := (Pattern.Expr.compile "[\"\\\\]").toOption.get (by rfl)

/-- The character that stands for a character behind a backslash. -/
def unescape (char : Char) : Char :=
  match char with
  | 'n' => '\n'
  | 't' => '\t'
  | 'r' => '\r'
  | other => other

/-- How a string ends. -/
inductive Ending where
  /-- With a quotation mark. -/
  | closed
  /-- With the text. -/
  | unclosed
  /-- With the text, right behind a backslash. -/
  | inEscape
  deriving DecidableEq, Repr

/-- The report of an ending, if it calls for one. -/
def Ending.event? (offset : Int) : Ending → Option (Report Token)
  | .closed => none
  | .unclosed => some (.unterminatedString offset)
  | .inEscape => some (.unterminatedEscape offset)

/-- What is read of a string behind its opening quotation mark. -/
structure Body where
  value : String
  ending : Ending
  cursor : Cursor

/-- One piece of a string: what precedes the next quotation mark or backslash. -/
def readPiece (cursor : Cursor) : String × Cursor := cursor.takeUntil (.pattern stringStop)

/-- Read a backslash and the character behind it.  The answer is `none` if there is no
backslash, and `some none` if the text ends right behind it. -/
def readEscape (cursor : Cursor) : Option (Option Char) × Cursor :=
  let backslash := cursor.accept "\\"
  if backslash.1 then (some backslash.2.next.1, backslash.2.next.2) else (none, backslash.2)

theorem readEscape_follows (cursor : Cursor) : Follows (readEscape cursor).2 cursor := by
  have backslash := follows_acceptAny cursor ["\\"]
  unfold readEscape
  dsimp only
  split
  · exact (follows_next _).trans backslash
  · exact backslash

/-- Reading an escape leaves fewer characters ahead. -/
theorem left_readEscape_lt {cursor rest : Cursor} {char : Option Char}
    (found : readEscape cursor = (some char, rest)) : rest.left < cursor.left := by
  unfold readEscape at found
  dsimp only at found
  split at found
  · rename_i accepted
    cases found
    obtain ⟨_, positive, available, _⟩ := acceptAny_eq_true accepted
    have ahead := Nat.lt_of_lt_of_le positive available
    have follows := follows_acceptAny cursor ["\\"]
    have started := Int.le_trans (inside_of_left_pos ahead).1 follows.position_le
    exact Nat.lt_of_le_of_lt ((follows_next _).left_le started)
      (follows.left_lt ahead (position_lt_acceptAny accepted))
  · cases found

/-- One round of reading a string, behind a part that was read before.  The string ends, or the
part that is now read is left, with the cursor behind an escape. -/
def bodyRound (earlier : String) (cursor : Cursor) : Body ⊕ String × Cursor :=
  let piece := readPiece cursor
  let value := earlier ++ piece.1
  let quote := piece.2.accept "\""
  if quote.1 then .inl ⟨value, .closed, quote.2⟩
  else
    match readEscape quote.2 with
    | (none, rest) => .inl ⟨value, .unclosed, rest⟩
    | (some none, rest) => .inl ⟨value, .inEscape, rest⟩
    | (some (some char), rest) => .inr (value.push (unescape char), rest)

/-- A round that does not end a string leaves fewer characters ahead. -/
theorem left_bodyRound_lt {earlier value : String} {cursor rest : Cursor}
    (found : bodyRound earlier cursor = .inr (value, rest)) : rest.left < cursor.left := by
  simp only [bodyRound] at found
  split at found
  · cases found
  · rename_i refused
    split at found
    · cases found
    · cases found
    · rename_i char later escape
      cases found
      have same : ((readPiece cursor).2.accept "\"").2 = (readPiece cursor).2 :=
        acceptAny_eq_false (Bool.not_eq_true _ ▸ refused)
      have fewer := left_readEscape_lt escape
      rw [same] at fewer
      exact Nat.lt_of_lt_of_le fewer (left_readRun_le cursor _ false ())

/-- Read a string behind its opening quotation mark, after a part that was read
before. -/
def readBody (earlier : String) (cursor : Cursor) : Body :=
  match _found : bodyRound earlier cursor with
  | .inl body => body
  | .inr (value, rest) => readBody value rest
termination_by cursor.left
decreasing_by exact left_bodyRound_lt _found

/-- Read a string. -/
def readString (offset : Int) (cursor : Cursor) : Option (List (Finding Token)) × Cursor :=
  let quote := cursor.accept "\""
  if quote.1 then
    let body := readBody "" quote.2
    (some (((body.ending.event? offset).map Finding.event).toList ++
      [.token (.string body.value offset)]), body.cursor)
  else (none, quote.2)

/-- The cursor behind a round, whether or not the string ends. -/
def behindRound : Body ⊕ String × Cursor → Cursor
  | .inl body => body.cursor
  | .inr (_, rest) => rest

theorem bodyRound_follows (earlier : String) (cursor : Cursor) :
    Follows (behindRound (bodyRound earlier cursor)) cursor := by
  have piece : Follows (readPiece cursor).2 cursor := follows_readRun cursor _ false ()
  have quote := (follows_acceptAny (readPiece cursor).2 ["\""]).trans piece
  have escape := (readEscape_follows ((readPiece cursor).2.accept "\"").2).trans quote
  simp only [bodyRound]
  split
  · exact quote
  · split <;> rename_i found <;> rw [found] at escape <;> exact escape

theorem readBody_follows (earlier : String) (cursor : Cursor) :
    Follows (readBody earlier cursor).cursor cursor := by
  have round := bodyRound_follows earlier cursor
  fun_induction readBody earlier cursor with
  | case1 earlier cursor body found =>
      rw [found] at round
      exact round
  | case2 earlier cursor value rest found ih =>
      rw [found] at round
      exact (ih (bodyRound_follows value rest)).trans round

/-- The recogniser of strings. -/
def string : Recogniser Token where
  run := readString
  follows offset cursor := by
    have quote := follows_acceptAny cursor ["\""]
    unfold readString
    dsimp only
    split
    · exact (readBody_follows _ _).trans quote
    · exact quote
  moves offset cursor recognised := by
    unfold readString at recognised ⊢
    dsimp only at recognised ⊢
    split at recognised
    · rename_i accepted
      rw [if_pos accepted]
      exact Int.lt_of_lt_of_le (position_lt_acceptAny accepted)
        (readBody_follows _ _).position_le
    · cases recognised

/-! ## Numbers -/

/-- Read a row of digits. -/
def readDigits (cursor : Cursor) : String × Cursor := cursor.takeWhile (.ofClass .digit)

/-- Read one character if it is among the given ones. -/
def readOneOf (chars : List Char) (cursor : Cursor) : String × Cursor :=
  match cursor.peek? with
  | some char => if char ∈ chars then (char.toString, cursor.next.2) else ("", cursor)
  | none => ("", cursor)

/-- Read a point and the digits behind it, or nothing. -/
def readFraction (cursor : Cursor) : String × Cursor :=
  let point := cursor.acceptClass .dot
  if point.1 then
    let digits := readDigits point.2
    ("." ++ digits.1, digits.2)
  else ("", point.2)

/-- Read the mark of an exponent, a sign and digits, or nothing. -/
def readExponent (cursor : Cursor) : String × Cursor :=
  let mark := readOneOf ['e', 'E'] cursor
  if mark.1 = "" then ("", mark.2)
  else
    let sign := readOneOf ['+', '-'] mark.2
    let digits := readDigits sign.2
    (mark.1 ++ sign.1 ++ digits.1, digits.2)

/-- What may be the beginning of a number: whether there is a sign, the digits behind it, and
the cursor behind them. -/
structure Attempt where
  negative : Bool
  digits : String
  cursor : Cursor

/-- Read what may be the beginning of a number. -/
def attempt (cursor : Cursor) : Attempt :=
  let sign := cursor.accept "-"
  let whole := readDigits sign.2
  ⟨sign.1, whole.1, whole.2⟩

/-- Read a number.  A sign without a digit behind it is given back. -/
def readNumber (offset : Int) (cursor : Cursor) : Option Token × Cursor :=
  let whole := attempt cursor
  if whole.digits = "" then (none, if whole.negative then whole.cursor.undo else whole.cursor)
  else
    let sign := if whole.negative then "-" else ""
    let fraction := readFraction whole.cursor
    let exponent := readExponent fraction.2
    (some (.number (sign ++ whole.digits ++ fraction.1 ++ exponent.1) offset), exponent.2)

theorem readOneOf_follows (chars : List Char) (cursor : Cursor) :
    Follows (readOneOf chars cursor).2 cursor := by
  unfold readOneOf
  split
  · split
    · exact follows_next cursor
    · exact Follows.refl cursor
  · exact Follows.refl cursor

theorem readFraction_follows (cursor : Cursor) : Follows (readFraction cursor).2 cursor := by
  have point := follows_acceptAny cursor [CharClass.dot.name]
  unfold readFraction
  dsimp only
  split
  · exact (follows_readRun _ _ true ()).trans point
  · exact point

theorem readExponent_follows (cursor : Cursor) : Follows (readExponent cursor).2 cursor := by
  have mark := readOneOf_follows ['e', 'E'] cursor
  unfold readExponent
  dsimp only
  split
  · exact mark
  · exact (follows_readRun _ _ true ()).trans ((readOneOf_follows _ _).trans mark)

theorem attempt_follows (cursor : Cursor) : Follows (attempt cursor).cursor cursor :=
  (follows_readRun _ (.ofClass .digit) true ()).trans (follows_acceptAny cursor ["-"])

theorem readNumber_follows (offset : Int) (cursor : Cursor) :
    Follows (readNumber offset cursor).2 cursor := by
  have whole := attempt_follows cursor
  unfold readNumber
  dsimp only
  split
  · split
    · rename_i accepted
      have since := ((Since.refl cursor).acceptAny ["-"]).readRun (.ofClass .digit) true ()
      have away := Int.lt_of_lt_of_le (position_lt_acceptAny accepted)
        (follows_readRun (cursor.accept "-").2 (.ofClass .digit) true ()).position_le
      exact ⟨(source_undo _).trans whole.source_eq,
        (since.undo (Int.ne_of_gt away)).position_le⟩
    · exact whole
  · exact (readExponent_follows _).trans ((readFraction_follows _).trans whole)

theorem readNumber_moves (offset : Int) (cursor : Cursor)
    (recognised : (readNumber offset cursor).1.isSome = true) :
    cursor.position < (readNumber offset cursor).2.position := by
  have sign := follows_acceptAny cursor ["-"]
  unfold readNumber at recognised ⊢
  dsimp only at recognised ⊢
  split at recognised
  · cases recognised
  · rename_i digits
    rw [if_neg digits]
    exact Int.lt_of_lt_of_le
      (Int.lt_of_le_of_lt sign.position_le (position_lt_readRun digits))
      ((readExponent_follows _).trans (readFraction_follows _)).position_le

/-- The recogniser of numbers. -/
def number : Recogniser Token where
  run offset cursor := silently (readNumber offset cursor)
  follows := readNumber_follows
  moves offset cursor recognised :=
    readNumber_moves offset cursor (by simpa [silently] using recognised)

/-! ## Texts -/

/-- The lexer of JSON texts. -/
def lexer : Lexer Token where
  recogniser := punctuation.orElse (keyword.orElse (string.orElse number))
  endToken := .eof

/-- The tokens of a JSON text. -/
def tokens (text : String) : List Token := lexer.tokens text

/-- The events of reading a JSON text. -/
def events (text : String) : List (Report Token) := lexer.events text

end TextCursor.Json
