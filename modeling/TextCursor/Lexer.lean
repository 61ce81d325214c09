import TextCursor.Cursor.Progress
import TextCursor.Event

/-!
# Lexers

A lexer walks over a text in rounds.  Each round passes over white space and lets a
recogniser try to read a token; where it cannot, one character is skipped and
reported.  At the end of the text stands a token of its own.  A recogniser comes
with the facts that make the rounds end: it never leaves the cursor behind where it
began, and if it recognises something it has moved.
-/

namespace TextCursor

/-- What a lexer brings to light, in the order of the text. -/
inductive Finding (τ : Type) where
  /-- A token was read. -/
  | token (token : τ)
  /-- Something is worth reporting. -/
  | event (event : Report τ)
  deriving DecidableEq

namespace Finding

variable {τ : Type}

/-- The token of a finding, if it is one. -/
def token? : Finding τ → Option τ
  | .token found => some found
  | .event _ => none

/-- The event of a finding, if it is one. -/
def event? : Finding τ → Option (Report τ)
  | .token _ => none
  | .event reported => some reported

end Finding

/-- A way to read tokens of one kind.  It is given the place at which the token
would begin, and gives up by answering `none`. -/
structure Recogniser (τ : Type) where
  /-- Try to read a token. -/
  run : (offset : Int) → Cursor → Option (List (Finding τ)) × Cursor
  /-- The cursor is not left behind where it was. -/
  follows : ∀ offset cursor, Cursor.Follows (run offset cursor).2 cursor
  /-- Reading a token moves the cursor. -/
  moves : ∀ offset cursor, (run offset cursor).1.isSome = true →
    cursor.position < (run offset cursor).2.position

/-- Try one recogniser, and if it gives up the other one from where it left the
cursor. -/
def Recogniser.orElse {τ : Type} (first second : Recogniser τ) : Recogniser τ where
  run offset cursor :=
    match first.run offset cursor with
    | (some findings, rest) => (some findings, rest)
    | (none, rest) => second.run offset rest
  follows offset cursor := by
    have firstFollows := first.follows offset cursor
    split <;> rename_i rest found <;> rw [found] at firstFollows
    · exact firstFollows
    · exact (second.follows offset rest).trans firstFollows
  moves offset cursor := by
    have firstFollows := first.follows offset cursor
    have firstMoves := first.moves offset cursor
    split <;> rename_i rest found <;> rw [found] at firstFollows firstMoves
    · exact firstMoves
    · intro recognised
      exact Int.lt_of_le_of_lt firstFollows.position_le (second.moves offset rest recognised)

/-- A recogniser for all kinds of tokens, and the token for the end of a text. -/
structure Lexer (τ : Type) where
  /-- Reads any token but the last one. -/
  recogniser : Recogniser τ
  /-- The token that stands at the end of a text. -/
  endToken : Int → τ

namespace Lexer

variable {τ : Type}

/-- Pass over white space. -/
def skipBlanks (cursor : Cursor) : Cursor :=
  (cursor.takeWhile (.ofChar Text.isWhiteSpace)).2

/-- Pass over one character, and report it. -/
def skipUnexpected (offset : Int) (cursor : Cursor) : List (Finding τ) × Cursor :=
  match cursor.next with
  | (some char, rest) => ([.event (.characterSkipped char offset)], rest)
  | (none, rest) => ([], rest)

/-- What one round behind the white space brings to light, and where it ends. -/
def roundFrom (lexer : Lexer τ) (start : Cursor) : List (Finding τ) × Cursor :=
  match lexer.recogniser.run (start.position + 1) start with
  | (some findings, rest) => (findings, rest)
  | (none, rest) => skipUnexpected (start.position + 1) rest

/-- One round, unless only white space is ahead. -/
def round? (lexer : Lexer τ) (cursor : Cursor) : Option (List (Finding τ) × Cursor) :=
  if (skipBlanks cursor).atEnd then none else some (lexer.roundFrom (skipBlanks cursor))

@[simp] theorem cursor_skipUnexpected (offset : Int) (cursor : Cursor) :
    (skipUnexpected offset cursor : List (Finding τ) × Cursor).2 = cursor.skip := by
  unfold skipUnexpected
  split <;> rename_i rest found <;> exact (congrArg Prod.snd found).symm

/-- A round with characters ahead moves. -/
theorem roundFrom_moves (lexer : Lexer τ) {start : Cursor} (ahead : 0 < start.left) :
    Cursor.Follows (lexer.roundFrom start).2 start ∧
      start.position < (lexer.roundFrom start).2.position := by
  have follows := lexer.recogniser.follows (start.position + 1) start
  have moves := lexer.recogniser.moves (start.position + 1) start
  unfold roundFrom
  split <;> rename_i rest found <;> rw [found] at follows moves
  · exact ⟨follows, moves rfl⟩
  · rw [cursor_skipUnexpected]
    have skipped := (Cursor.follows_skip rest).trans follows
    refine ⟨skipped, ?_⟩
    have inside := Cursor.inside_of_left_pos ahead
    have order := follows.position_le
    have sources := follows.source_eq
    unfold Cursor.skip
    simp only at order sources
    split
    · simp only
      omega
    · rename_i behind
      rw [sources] at behind
      omega

/-- Every round leaves fewer characters ahead. -/
theorem left_round?_lt (lexer : Lexer τ) {cursor rest : Cursor} {findings : List (Finding τ)}
    (found : lexer.round? cursor = some (findings, rest)) : rest.left < cursor.left := by
  unfold round? at found
  split at found
  · cases found
  · rename_i notDone
    have ahead := Cursor.left_pos_of_atEnd (Bool.not_eq_true _ ▸ notDone)
    have moves := lexer.roundFrom_moves ahead
    simp only [Option.some.injEq] at found
    rw [found] at moves
    exact Nat.lt_of_lt_of_le (moves.1.left_lt ahead moves.2)
      (Cursor.left_readRun_le cursor _ true ())

/-- Everything that the rounds from a cursor to the end of its text bring to light. -/
def scan (lexer : Lexer τ) (cursor : Cursor) : List (Finding τ) :=
  match found : lexer.round? cursor with
  | none => [.token (lexer.endToken ((skipBlanks cursor).position + 1))]
  | some (findings, rest) => findings ++ scan lexer rest
termination_by cursor.left
decreasing_by exact lexer.left_round?_lt found

/-- Everything that a text brings to light. -/
def findings (lexer : Lexer τ) (text : String) : List (Finding τ) :=
  lexer.scan (Cursor.ofString text)

/-- The tokens of a text. -/
def tokens (lexer : Lexer τ) (text : String) : List τ :=
  (lexer.findings text).filterMap Finding.token?

/-- The events of reading a text. -/
def events (lexer : Lexer τ) (text : String) : List (Report τ) :=
  (lexer.findings text).filterMap Finding.event?

end Lexer

end TextCursor
