import TextCursor.BoundedStack.Basic
import TextCursor.Predicate
import TextCursor.Registry
import TextCursor.Source.Basic

/-!
# Cursors

A cursor walks over a source text.  It rests on the last character it consumed and
begins at position `-1`, before the first one.  Looking ahead changes nothing;
consuming moves forward and remembers the position it started from in a bounded
history, so that `undo` can step back.  Any position can be jumped to; from one
outside the text there is nothing to read.
-/

namespace TextCursor

/-- A place in a source text, with the positions to step back to and the classes
that names refer to. -/
structure Cursor where
  /-- The text walked over. -/
  source : Source
  /-- The classes that names refer to. -/
  registry : Registry
  /-- The place of the last character consumed. -/
  position : Int
  /-- The positions to step back to. -/
  history : BoundedStack Int

namespace Cursor

/-- How a cursor is set up. -/
structure Config where
  /-- The number of positions remembered. -/
  historyCapacity : Nat := BoundedStack.defaultCapacity
  /-- The classes that names refer to. -/
  registry : Registry := Registry.standard

/-- The cursor before the first character of a text. -/
def ofString (text : String) (config : Config := {}) : Cursor where
  source := Source.ofString text
  registry := config.registry
  position := -1
  history := BoundedStack.empty config.historyCapacity

/-! ## Looking -/

/-- The place of the next character to consume, or of the end of the text, if the
position is not outside the text. -/
def head? (cursor : Cursor) : Option Nat :=
  if -1 ≤ cursor.position ∧ cursor.position < cursor.source.length then
    some (cursor.position + 1).toNat
  else none

/-- The number of characters ahead. -/
def left (cursor : Cursor) : Nat :=
  match cursor.head? with
  | some head => cursor.source.length - head
  | none => 0

/-- Whether nothing is left to consume. -/
def atEnd (cursor : Cursor) : Bool := cursor.left == 0

/-- The text ahead. -/
def remaining (cursor : Cursor) : String :=
  match cursor.head? with
  | some head => cursor.source.slice head cursor.source.length
  | none => ""

/-- The character at the position. -/
def value? (cursor : Cursor) : Option Char := cursor.source.charAt? cursor.position

/-- The next character. -/
def peek? (cursor : Cursor) : Option Char := cursor.source.charAt? (cursor.position + 1)

/-! ## Moving -/

/-- Move forward one place; behind the last character the cursor stays. -/
def skip (cursor : Cursor) : Cursor :=
  if cursor.position < cursor.source.length then
    { cursor with position := cursor.position + 1 }
  else cursor

/-- Move forward one place and look at the character there. -/
def next (cursor : Cursor) : Option Char × Cursor := (cursor.skip.value?, cursor.skip)

/-- Remember the position. -/
def record (cursor : Cursor) : Cursor :=
  { cursor with history := cursor.history.push cursor.position }

/-- Remember the position and go to another one. -/
def jump (cursor : Cursor) (target : Int) : Cursor :=
  { cursor.record with position := target }

/-- Remember the position and move forward. -/
def consume (cursor : Cursor) (count : Nat) : Cursor :=
  { cursor.record with position := cursor.position + count }

/-- Step back to the position remembered last. -/
def undo (cursor : Cursor) : Cursor :=
  match cursor.history.peek? with
  | some position => { cursor with position := position, history := cursor.history.pop }
  | none => cursor

/-- Go back before the first character and forget all remembered positions. -/
def reset (cursor : Cursor) : Cursor :=
  { cursor with position := -1, history := cursor.history.clear }

/-- Step back through the remembered positions of a history, newest first, up to
the given position or to the end of the history. -/
def rewindThrough (start : Int) : List Int → Cursor → Cursor
  | [], cursor => cursor
  | _ :: entries, cursor =>
      if cursor.position = start then cursor else rewindThrough start entries cursor.undo

/-- Step back until the cursor is at a position again, or has nothing more to step
back to. -/
def rewind (cursor : Cursor) (start : Int) : Cursor :=
  rewindThrough start cursor.history.entries cursor

/-! ## Names -/

/-- The length of a text, if it is not empty and the source spells it at a place. -/
def literalLength? (cursor : Cursor) (place : Nat) (text : String) : Option Nat :=
  let count := text.length
  if count = 0 ∨ cursor.source.length < place + count then none
  else if cursor.source.slice place (place + count) = text then some count else none

/-- The number of characters that a name covers at a place: one for a class with a
pattern that the character matches, and the whole length for a class with a literal
text, or for the text that an unregistered name stands for. -/
def matchLength? (cursor : Cursor) (place : Nat) (name : String) : Option Nat :=
  match cursor.registry.classify? name with
  | some (.pattern rule) =>
      match cursor.source.charAt? place with
      | some char => if rule.searchChar char then some 1 else none
      | none => none
  | some (.literal text) => cursor.literalLength? place text
  | none => cursor.literalLength? place (ClassName.literalText name)

/-- The number of characters ahead that a name covers. -/
def probe? (cursor : Cursor) (name : String) : Option Nat :=
  match cursor.head? with
  | some head => cursor.matchLength? head name
  | none => none

/-- Whether a name covers what is ahead. -/
def check (cursor : Cursor) (name : String) : Bool := (cursor.probe? name).isSome

/-- The number of characters covered by the first of several names that covers
what is ahead. -/
def probeAny? (cursor : Cursor) (candidates : List String) : Option Nat :=
  candidates.findSome? cursor.probe?

/-- Consume what the first fitting name covers, and tell whether one fits. -/
def acceptAny (cursor : Cursor) (candidates : List String) : Bool × Cursor :=
  match cursor.probeAny? candidates with
  | some count => (true, cursor.consume count)
  | none => (false, cursor)

/-- Consume what a name covers, and tell whether it fits. -/
def accept (cursor : Cursor) (name : String) : Bool × Cursor := cursor.acceptAny [name]

/-- Consume what a standard class covers, and tell whether it fits. -/
def acceptClass (cursor : Cursor) (charClass : CharClass) : Bool × Cursor :=
  cursor.acceptAny [charClass.name]

/-! ## Reading -/

/-- Consume at most the given number of characters.  The position is remembered even
if there are none. -/
def read (cursor : Cursor) (count : Nat) : String × Cursor :=
  let taken := min count cursor.left
  let text := match cursor.head? with
    | some head => cursor.source.slice head (head + taken)
    | none => ""
  (text, cursor.consume taken)

variable {σ : Type}

/-- Whether a predicate holds of the character at a place, with the state of its
test before and after. -/
def satisfies (cursor : Cursor) (predicate : Predicate σ) (state : σ) (place run : Nat) :
    Bool × σ :=
  match cursor.source.charAt? place with
  | none => (false, state)
  | some char =>
      match predicate with
      | .test ask => ask state char run
      | .pattern rule => (rule.searchChar char, state)
      | .name name => ((cursor.matchLength? place name).isSome, state)

/-- The length of the run of characters, among the given number of them from a
place on, of which the predicate has the wanted truth value. -/
def extent (cursor : Cursor) (predicate : Predicate σ) (wanted : Bool) (start : Nat) :
    (ahead run : Nat) → σ → Nat × σ
  | 0, run, state => (run, state)
  | ahead + 1, run, state =>
      let (holds, state) := cursor.satisfies predicate state (start + run) run
      if holds == wanted then cursor.extent predicate wanted start ahead (run + 1) state
      else (run, state)

/-- The outcome of reading a run: its text, the state of the test after the last
question, and the cursor behind the run. -/
structure Reading (σ : Type) where
  text : String
  state : σ
  cursor : Cursor

/-- Consume the longest run of characters of which the predicate has the wanted
truth value.  The position is remembered only if the run is not empty. -/
def readRun (cursor : Cursor) (predicate : Predicate σ) (wanted : Bool) (state : σ) :
    Reading σ :=
  match cursor.head? with
  | none => ⟨"", state, cursor⟩
  | some head =>
      let (run, state) := cursor.extent predicate wanted head cursor.left 0 state
      ⟨cursor.source.slice head (head + run), state,
        if run = 0 then cursor else cursor.consume run⟩

/-- Consume characters for as long as the predicate holds. -/
def readWhile (cursor : Cursor) (predicate : Predicate σ) (state : σ) : Reading σ :=
  cursor.readRun predicate true state

/-- Consume characters up to the first one of which the predicate holds. -/
def readUntil (cursor : Cursor) (predicate : Predicate σ) (state : σ) : Reading σ :=
  cursor.readRun predicate false state

/-- Consume characters for as long as a predicate holds whose tests remember
nothing. -/
def takeWhile (cursor : Cursor) (predicate : Predicate Unit) : String × Cursor :=
  let reading := cursor.readWhile predicate ()
  (reading.text, reading.cursor)

/-- Consume characters up to the first one of which a predicate holds whose tests
remember nothing. -/
def takeUntil (cursor : Cursor) (predicate : Predicate Unit) : String × Cursor :=
  let reading := cursor.readUntil predicate ()
  (reading.text, reading.cursor)

end Cursor

end TextCursor
