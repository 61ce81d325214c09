import TextCursor.Cursor.Basic

/-!
# Operations on cursors

Everything that can be done with a cursor, as data: what each operation answers,
what it leaves behind and which events it reports.
-/

namespace TextCursor.Cursor

variable {σ : Type}

/-- Something to do with a cursor. -/
inductive Operation (σ : Type) where
  | next
  | skip
  | jump (target : Int)
  | reset
  | undo
  | acceptAny (candidates : List String)
  | acceptClass (charClass : CharClass)
  | check (name : String)
  | read (count : Nat)
  | readWhile (predicate : Predicate σ)
  | readUntil (predicate : Predicate σ)

/-- What an operation answers. -/
inductive Answer where
  | nothing
  | char (char : Option Char)
  | position (position : Int)
  | truth (value : Bool)
  | text (text : String)
  deriving DecidableEq, Repr

/-- What an operation answers and leaves behind. -/
structure Outcome (σ : Type) where
  answer : Answer
  state : σ
  cursor : Cursor

/-- What can be seen of a cursor. -/
structure View where
  position : Int
  value : Option Char
  peek : Option Char
  atEnd : Bool
  remaining : String
  deriving DecidableEq, Repr

/-- Look at a cursor from all sides. -/
def view (cursor : Cursor) : View :=
  ⟨cursor.position, cursor.value?, cursor.peek?, cursor.atEnd, cursor.remaining⟩

/-- The outcome of reading a run. -/
def Reading.outcome (reading : Reading σ) : Outcome σ :=
  ⟨.text reading.text, reading.state, reading.cursor⟩

/-- Carry out an operation; the state is that of the tests of predicates. -/
def perform (cursor : Cursor) (state : σ) : Operation σ → Outcome σ
  | .next => ⟨.char cursor.next.1, state, cursor.next.2⟩
  | .skip => ⟨.position cursor.skip.position, state, cursor.skip⟩
  | .jump target => ⟨.position target, state, cursor.jump target⟩
  | .reset => ⟨.nothing, state, cursor.reset⟩
  | .undo => ⟨.nothing, state, cursor.undo⟩
  | .acceptAny candidates =>
      ⟨.truth (cursor.acceptAny candidates).1, state, (cursor.acceptAny candidates).2⟩
  | .acceptClass charClass =>
      ⟨.truth (cursor.acceptClass charClass).1, state, (cursor.acceptClass charClass).2⟩
  | .check name => ⟨.truth (cursor.check name), state, cursor⟩
  | .read count => ⟨.text (cursor.read count).1, state, (cursor.read count).2⟩
  | .readWhile predicate => (cursor.readWhile predicate state).outcome
  | .readUntil predicate => (cursor.readUntil predicate state).outcome

/-- Whether an operation remembers the position: a jump and a bulk read always do, a
class or text only if it fits, and a run only if it is not empty. -/
def remembers (cursor : Cursor) (state : σ) : Operation σ → Bool
  | .jump _ => true
  | .read _ => true
  | .acceptAny candidates => (cursor.acceptAny candidates).1
  | .acceptClass charClass => (cursor.acceptClass charClass).1
  | .readWhile predicate => (cursor.readWhile predicate state).text ≠ ""
  | .readUntil predicate => (cursor.readUntil predicate state).text ≠ ""
  | .next => false
  | .skip => false
  | .reset => false
  | .undo => false
  | .check _ => false

/-- The events of an operation: a jump and a step back are announced, and so is a
position forgotten because a new one is remembered. -/
def events (cursor : Cursor) (state : σ) (operation : Operation σ) : List Event :=
  let announced : List Event :=
    match operation with
    | .jump target => [.jumped cursor.position target]
    | .undo => (cursor.history.peek?.map (Event.undone cursor.position)).toList
    | _ => []
  announced ++
    if cursor.remembers state operation then cursor.history.events [cursor.position] else []

/-- The cursor behind several operations, and the state of the tests there. -/
def after (cursor : Cursor) (state : σ) : List (Operation σ) → Cursor × σ
  | [] => (cursor, state)
  | operation :: operations =>
      let outcome := cursor.perform state operation
      after outcome.cursor outcome.state operations

/-- Carry out several operations in order, with the answers and cursors of all. -/
def run (cursor : Cursor) (state : σ) : List (Operation σ) → List (Outcome σ)
  | [] => []
  | operation :: operations =>
      let outcome := cursor.perform state operation
      outcome :: run outcome.cursor outcome.state operations

end TextCursor.Cursor
