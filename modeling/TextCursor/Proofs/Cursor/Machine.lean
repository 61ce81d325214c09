import Mathlib.Algebra.Group.Int.Defs
import Mathlib.Algebra.Group.Nat.Defs
import TextCursor.Cursor.Operation

/-!
# Cursors on a machine

A machine keeps positions in signed and places, counts and byte offsets in unsigned
words of sixty-four bits.  This module carries out every operation on a cursor the
way a machine does, and refuses to go on where a sum, a difference or a conversion
does not fit its word, where a place has no entry in the table of offsets, and where
a text is cut backward or within a character.

The guards are those of the operations and differ from one to the other: the place
to read from exists only if the successor of the position fits a word, a look ahead
stays at the greatest position instead, and moving forward adds without any guard
but the comparison before it.
-/

namespace TextCursor.Machine

/-- Why a machine cannot go on. -/
inductive Fault where
  /-- A sum or difference does not fit its word. -/
  | overflow
  /-- A number changes when it is taken for one of the other kind. -/
  | conversion
  /-- A place has no entry in the table of offsets. -/
  | noEntry
  /-- A text is cut backward or within a character. -/
  | badCut
  deriving DecidableEq, Repr

/-- A result, if the machine could go on. -/
abbrev Checked := Except Fault

/-! ## Words -/

/-- The number fits a signed word. -/
def FitsSigned (number : Int) : Prop := -2 ^ 63 ≤ number ∧ number < 2 ^ 63

instance (number : Int) : Decidable (FitsSigned number) := inferInstanceAs (Decidable (_ ∧ _))

def addSigned (left right : Int) : Checked Int :=
  if FitsSigned (left + right) then .ok (left + right) else .error .overflow

def addUnsigned (left right : Nat) : Checked Nat :=
  if left + right < 2 ^ 64 then .ok (left + right) else .error .overflow

def subtractUnsigned (left right : Nat) : Checked Nat :=
  if right ≤ left then .ok (left - right) else .error .overflow

/-- Take a place for a position. -/
def toSigned (place : Nat) : Checked Int :=
  if place < 2 ^ 63 then .ok place else .error .conversion

/-- Take a position for a place, unless it is negative. -/
def toUnsigned? (position : Int) : Option Nat :=
  if 0 ≤ position then some position.toNat else none

/-- The next position, unless the position is the greatest one. -/
def successor? (position : Int) : Option Int :=
  if position < 2 ^ 63 - 1 then some (position + 1) else none

/-- The next position, or the greatest one. -/
def saturatingSuccessor (position : Int) : Int :=
  if position < 2 ^ 63 - 1 then position + 1 else 2 ^ 63 - 1

/-! ## Source texts -/

def length (source : Source) : Checked Nat := subtractUnsigned source.offsets.size 1

def offset (source : Source) (place : Nat) : Checked Nat :=
  match source.offsets[place]? with
  | some offset => .ok offset
  | none => .error .noEntry

/-- Cut a text between two byte offsets, which must not lie within characters. -/
def cut (text : String) (first stop : Nat) : Checked String :=
  if first ≤ stop ∧ String.Pos.Raw.IsValid text ⟨first⟩ ∧ String.Pos.Raw.IsValid text ⟨stop⟩ then
    .ok (String.Pos.Raw.extract text ⟨first⟩ ⟨stop⟩)
  else .error .badCut

def slice (source : Source) (first stop : Nat) : Checked String := do
  cut source.text (← offset source first) (← offset source stop)

/-- The first character of what the text has from a place on. -/
def charAt? (source : Source) (position : Int) : Checked (Option Char) :=
  match toUnsigned? position with
  | none => .ok none
  | some place => do
      if (← length source) ≤ place then return none
      else
        let rest ← cut source.text (← offset source place) source.text.utf8ByteSize
        return rest.toList.head?

/-! ## Looking -/

variable {σ : Type}

def head? (cursor : Cursor) : Checked (Option Nat) :=
  match (successor? cursor.position).bind toUnsigned? with
  | none => .ok none
  | some head => do
      let length ← length cursor.source
      return if head ≤ length then some head else none

def left (cursor : Cursor) : Checked Nat := do
  match ← head? cursor with
  | some head => subtractUnsigned (← length cursor.source) head
  | none => return 0

def atEnd (cursor : Cursor) : Checked Bool := do return (← left cursor) == 0

def remaining (cursor : Cursor) : Checked String := do
  match ← head? cursor with
  | some head => slice cursor.source head (← length cursor.source)
  | none => return ""

def value? (cursor : Cursor) : Checked (Option Char) := charAt? cursor.source cursor.position

def peek? (cursor : Cursor) : Checked (Option Char) :=
  charAt? cursor.source (saturatingSuccessor cursor.position)

def view (cursor : Cursor) : Checked Cursor.View := do
  return ⟨cursor.position, ← value? cursor, ← peek? cursor, ← atEnd cursor, ← remaining cursor⟩

/-! ## Moving -/

def skip (cursor : Cursor) : Checked Cursor := do
  if cursor.position < (← toSigned (← length cursor.source)) then
    return { cursor with position := ← addSigned cursor.position 1 }
  else return cursor

def consume (cursor : Cursor) (count : Nat) : Checked Cursor := do
  return { cursor.record with position := ← addSigned cursor.position (← toSigned count) }

/-! ## Names -/

def literalLength? (cursor : Cursor) (place : Nat) (text : String) : Checked (Option Nat) :=
  if text.length = 0 then .ok none
  else do
    let stop ← addUnsigned place text.length
    if (← length cursor.source) < stop then return none
    else return if (← slice cursor.source place stop) = text then some text.length else none

def matchLength? (cursor : Cursor) (place : Nat) (name : String) : Checked (Option Nat) :=
  match cursor.registry.classify? name with
  | some (.pattern rule) => do
      match ← charAt? cursor.source (← toSigned place) with
      | some char => return if rule.searchChar char then some 1 else none
      | none => return none
  | some (.literal text) => literalLength? cursor place text
  | none => literalLength? cursor place (ClassName.literalText name)

def probe? (cursor : Cursor) (name : String) : Checked (Option Nat) := do
  match ← head? cursor with
  | some head => matchLength? cursor head name
  | none => return none

def probeAny? (cursor : Cursor) : List String → Checked (Option Nat)
  | [] => .ok none
  | name :: names => do
      match ← probe? cursor name with
      | some count => return some count
      | none => probeAny? cursor names

def acceptAny (cursor : Cursor) (candidates : List String) : Checked (Bool × Cursor) := do
  match ← probeAny? cursor candidates with
  | some count => return (true, ← consume cursor count)
  | none => return (false, cursor)

/-! ## Reading -/

def read (cursor : Cursor) (count : Nat) : Checked (String × Cursor) := do
  let taken := min count (← left cursor)
  match ← head? cursor with
  | some head =>
      let text ← slice cursor.source head (← addUnsigned head taken)
      return (text, ← consume cursor taken)
  | none => return ("", ← consume cursor taken)

def satisfies (cursor : Cursor) (predicate : Predicate σ) (state : σ) (place run : Nat) :
    Checked (Bool × σ) := do
  match ← charAt? cursor.source (← toSigned place) with
  | none => return (false, state)
  | some char =>
      match predicate with
      | .test ask => return ask state char run
      | .pattern rule => return (rule.searchChar char, state)
      | .name name => return ((← matchLength? cursor place name).isSome, state)

/-- The place where a run ends that begins at `start` and has come to `stop`; the
number bounds the characters that it can still take. -/
def runEnd (cursor : Cursor) (predicate : Predicate σ) (wanted : Bool) (start : Nat) :
    (ahead stop : Nat) → σ → Checked (Nat × σ)
  | 0, stop, state => .ok (stop, state)
  | ahead + 1, stop, state => do
      if stop < (← length cursor.source) then
        let (holds, state) ←
          satisfies cursor predicate state stop (← subtractUnsigned stop start)
        if holds == wanted then
          runEnd cursor predicate wanted start ahead (← addUnsigned stop 1) state
        else return (stop, state)
      else return (stop, state)

def readRun (cursor : Cursor) (predicate : Predicate σ) (wanted : Bool) (state : σ) :
    Checked (Cursor.Reading σ) := do
  match ← head? cursor with
  | none => return ⟨"", state, cursor⟩
  | some start =>
      let (stop, state) ← runEnd cursor predicate wanted start (← left cursor) start state
      if start < stop then
        let moved ← consume cursor (← subtractUnsigned stop start)
        return ⟨← slice cursor.source start stop, state, moved⟩
      else return ⟨← slice cursor.source start stop, state, cursor⟩

/-! ## Operations -/

/-- Carry out an operation. -/
def perform (cursor : Cursor) (state : σ) : Cursor.Operation σ → Checked (Cursor.Outcome σ)
  | .next => do
      let moved ← skip cursor
      return ⟨.char (← value? moved), state, moved⟩
  | .skip => do
      let moved ← skip cursor
      return ⟨.position moved.position, state, moved⟩
  | .jump target => .ok ⟨.position target, state, cursor.jump target⟩
  | .reset => .ok ⟨.nothing, state, cursor.reset⟩
  | .undo => .ok ⟨.nothing, state, cursor.undo⟩
  | .acceptAny candidates => do
      let (accepted, moved) ← acceptAny cursor candidates
      return ⟨.truth accepted, state, moved⟩
  | .acceptClass charClass => do
      let (accepted, moved) ← acceptAny cursor [charClass.name]
      return ⟨.truth accepted, state, moved⟩
  | .check name => do return ⟨.truth (← probe? cursor name).isSome, state, cursor⟩
  | .read count => do
      let (text, moved) ← read cursor count
      return ⟨.text text, state, moved⟩
  | .readWhile predicate => do return (← readRun cursor predicate true state).outcome
  | .readUntil predicate => do return (← readRun cursor predicate false state).outcome

/-- Carry out several operations in order, and look at the cursor from all sides
behind each of them. -/
def run (cursor : Cursor) (state : σ) :
    List (Cursor.Operation σ) → Checked (List (Cursor.Outcome σ × Cursor.View))
  | [] => .ok []
  | operation :: operations => do
      let outcome ← perform cursor state operation
      let seen ← view outcome.cursor
      return (outcome, seen) :: (← run outcome.cursor outcome.state operations)

end TextCursor.Machine
