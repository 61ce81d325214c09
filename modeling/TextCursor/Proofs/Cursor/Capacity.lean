import Mathlib.Data.List.Forall2
import TextCursor.BoundedStack.Lemmas
import TextCursor.Cursor.Operation

/-!
# The capacity of the history

Two cursors that differ only in how many positions they remember cannot be told
apart before one of them has nothing left to step back to.  The relation that every
operation keeps is `Shadows`: both cursors are at the same place, and the positions
of the one with less room are the newest ones of the other.  They are not simply its
last few, because steps back after a loss leave fewer positions than there is room
for.
-/

namespace TextCursor

variable {σ : Type}

namespace BoundedStack

variable {α : Type} {small large : BoundedStack α}

/-- Pushing onto stacks of which one holds the newest values of the other keeps it
so, if it has no more room. -/
theorem entries_push_prefix (newest : small.entries <+: large.entries)
    (room : small.capacity ≤ large.capacity) (value : α) :
    (small.push value).entries <+: (large.push value).entries := by
  rw [entries_push, entries_push]
  have grown : (value :: small.entries).take small.capacity <+: value :: large.entries :=
    (List.take_prefix _ _).trans ((List.prefix_cons_inj value).2 newest)
  rw [List.prefix_take_iff]
  exact ⟨grown, Nat.le_trans (List.length_take_le _ _) room⟩

theorem entries_pop_prefix (newest : small.entries <+: large.entries)
    (held : small.entries ≠ []) : small.pop.entries <+: large.pop.entries := by
  rw [entries_pop, entries_pop]
  obtain ⟨older, split⟩ := newest
  rw [← split, List.tail_append_of_ne_nil held]
  exact List.prefix_append _ _

end BoundedStack

namespace Cursor

/-! ## Cursors at the same place -/

/-- Two cursors rest at the same place of the same text and read it with the same
classes. -/
structure SamePlace (left right : Cursor) : Prop where
  source_eq : left.source = right.source
  registry_eq : left.registry = right.registry
  position_eq : left.position = right.position

namespace SamePlace

variable {left right : Cursor}

/-- Looking does not depend on the history. -/
theorem view_eq (same : SamePlace left right) : left.view = right.view := by
  cases left
  cases right
  obtain ⟨rfl, rfl, rfl⟩ := same
  rfl

theorem head?_eq (same : SamePlace left right) : left.head? = right.head? := by
  simp only [head?, same.source_eq, same.position_eq]

theorem left_eq (same : SamePlace left right) : left.left = right.left := by
  simp only [Cursor.left, same.head?_eq, same.source_eq]

theorem matchLength?_eq (same : SamePlace left right) (place : Nat) (name : String) :
    left.matchLength? place name = right.matchLength? place name := by
  simp only [matchLength?, literalLength?, same.source_eq, same.registry_eq]

theorem probe?_eq (same : SamePlace left right) (name : String) :
    left.probe? name = right.probe? name := by
  simp only [probe?, same.head?_eq, same.matchLength?_eq]

theorem probeAny?_eq (same : SamePlace left right) (candidates : List String) :
    left.probeAny? candidates = right.probeAny? candidates := by
  have probes : left.probe? = right.probe? := funext same.probe?_eq
  simp only [probeAny?, probes]

theorem satisfies_eq (same : SamePlace left right) (predicate : Predicate σ) (state : σ)
    (place run : Nat) :
    left.satisfies predicate state place run = right.satisfies predicate state place run := by
  simp only [satisfies, same.source_eq, same.matchLength?_eq]

theorem extent_eq (same : SamePlace left right) (predicate : Predicate σ) (wanted : Bool)
    (start : Nat) : ∀ (ahead run : Nat) (state : σ),
      left.extent predicate wanted start ahead run state =
        right.extent predicate wanted start ahead run state := by
  intro ahead
  induction ahead with
  | zero =>
      intro run state
      rfl
  | succ ahead ih =>
      intro run state
      simp only [extent, same.satisfies_eq, ih]

end SamePlace

/-! ## The relation kept by every operation -/

/-- The small cursor is at the place of the large one, has no more room for its
history, and remembers the newest of the positions that the large one remembers. -/
structure Shadows (small large : Cursor) : Prop extends SamePlace small large where
  capacity_le : small.history.capacity ≤ large.history.capacity
  newest : small.history.entries <+: large.history.entries

namespace Shadows

variable {small large : Cursor}

theorem skip (shadows : Shadows small large) : Shadows small.skip large.skip := by
  simp only [Cursor.skip, shadows.source_eq, shadows.position_eq]
  split
  · exact ⟨⟨rfl, shadows.registry_eq, rfl⟩, shadows.capacity_le, shadows.newest⟩
  · exact shadows

theorem record (shadows : Shadows small large) : Shadows small.record large.record := by
  refine ⟨⟨shadows.source_eq, shadows.registry_eq, shadows.position_eq⟩,
    shadows.capacity_le, ?_⟩
  simp only [Cursor.record, shadows.position_eq]
  exact BoundedStack.entries_push_prefix shadows.newest shadows.capacity_le _

theorem jump (shadows : Shadows small large) (target : Int) :
    Shadows (small.jump target) (large.jump target) :=
  ⟨⟨shadows.source_eq, shadows.registry_eq, rfl⟩, shadows.capacity_le, shadows.record.newest⟩

theorem consume (shadows : Shadows small large) (count : Nat) :
    Shadows (small.consume count) (large.consume count) := by
  refine ⟨⟨shadows.source_eq, shadows.registry_eq, ?_⟩, shadows.capacity_le,
    shadows.record.newest⟩
  simp only [Cursor.consume, shadows.position_eq]

theorem reset (shadows : Shadows small large) : Shadows small.reset large.reset :=
  ⟨⟨shadows.source_eq, shadows.registry_eq, rfl⟩, shadows.capacity_le, List.prefix_rfl⟩

/-- A step back keeps the relation unless only the large cursor can take it. -/
theorem undo (shadows : Shadows small large)
    (undoable : small.history.isEmpty = true → large.history.isEmpty = true) :
    Shadows small.undo large.undo := by
  simp only [Cursor.undo, BoundedStack.peek?_newest]
  cases held : small.history.entries with
  | nil =>
      have none : large.history.entries = [] := by
        apply List.isEmpty_iff.1
        apply undoable
        exact List.isEmpty_iff.2 held
      rw [none]
      exact shadows
  | cons position older =>
      have some : small.history.entries ≠ [] := held ▸ List.cons_ne_nil _ _
      have popped := BoundedStack.entries_pop_prefix shadows.newest some
      obtain ⟨lost, split⟩ := shadows.newest
      rw [← split, held]
      exact ⟨⟨shadows.source_eq, shadows.registry_eq, rfl⟩, shadows.capacity_le, popped⟩

theorem acceptAny (shadows : Shadows small large) (candidates : List String) :
    (small.acceptAny candidates).1 = (large.acceptAny candidates).1 ∧
      Shadows (small.acceptAny candidates).2 (large.acceptAny candidates).2 := by
  simp only [Cursor.acceptAny, shadows.probeAny?_eq]
  cases large.probeAny? candidates with
  | none => exact ⟨rfl, shadows⟩
  | some count => exact ⟨rfl, shadows.consume count⟩

theorem read (shadows : Shadows small large) (count : Nat) :
    (small.read count).1 = (large.read count).1 ∧
      Shadows (small.read count).2 (large.read count).2 := by
  simp only [Cursor.read, shadows.left_eq, shadows.head?_eq, shadows.source_eq]
  exact ⟨trivial, shadows.consume _⟩

theorem readRun (shadows : Shadows small large) (predicate : Predicate σ) (wanted : Bool)
    (state : σ) :
    (small.readRun predicate wanted state).text = (large.readRun predicate wanted state).text ∧
      (small.readRun predicate wanted state).state =
        (large.readRun predicate wanted state).state ∧
      Shadows (small.readRun predicate wanted state).cursor
        (large.readRun predicate wanted state).cursor := by
  simp only [Cursor.readRun, shadows.head?_eq]
  cases large.head? with
  | none => exact ⟨rfl, rfl, shadows⟩
  | some head =>
      simp only [shadows.left_eq, shadows.extent_eq, shadows.source_eq]
      refine ⟨trivial, trivial, ?_⟩
      split
      · exact shadows
      · exact shadows.consume _

/-- One operation answers alike and keeps the relation. -/
theorem perform (shadows : Shadows small large) (state : σ) (operation : Operation σ)
    (undoable : operation = .undo → small.history.isEmpty = true →
      large.history.isEmpty = true) :
    (small.perform state operation).answer = (large.perform state operation).answer ∧
      (small.perform state operation).state = (large.perform state operation).state ∧
      Shadows (small.perform state operation).cursor
        (large.perform state operation).cursor := by
  cases operation with
  | next =>
      have seen := congrArg View.value shadows.skip.view_eq
      exact ⟨congrArg Answer.char seen, rfl, shadows.skip⟩
  | skip => exact ⟨congrArg Answer.position shadows.skip.position_eq, rfl, shadows.skip⟩
  | jump target => exact ⟨rfl, rfl, shadows.jump target⟩
  | reset => exact ⟨rfl, rfl, shadows.reset⟩
  | undo => exact ⟨rfl, rfl, shadows.undo (undoable rfl)⟩
  | acceptAny candidates =>
      have accepted := shadows.acceptAny candidates
      exact ⟨congrArg Answer.truth accepted.1, rfl, accepted.2⟩
  | acceptClass charClass =>
      have accepted := shadows.acceptAny [charClass.name]
      exact ⟨congrArg Answer.truth accepted.1, rfl, accepted.2⟩
  | check name =>
      simp only [Cursor.perform, check, shadows.probe?_eq]
      exact ⟨trivial, trivial, shadows⟩
  | read count =>
      have taken := shadows.read count
      exact ⟨congrArg Answer.text taken.1, rfl, taken.2⟩
  | readWhile predicate =>
      have taken := shadows.readRun predicate true state
      exact ⟨congrArg Answer.text taken.1, taken.2⟩
  | readUntil predicate =>
      have taken := shadows.readRun predicate false state
      exact ⟨congrArg Answer.text taken.1, taken.2⟩

end Shadows

/-! ## Runs -/

/-- Two outcomes with the same answer, the same state of the tests and cursors that
look the same, of which the first remembers the newest positions of the second. -/
structure Agree (small large : Outcome σ) : Prop where
  answer_eq : small.answer = large.answer
  state_eq : small.state = large.state
  view_eq : small.cursor.view = large.cursor.view
  newest : small.cursor.history.toList <:+ large.cursor.history.toList

/-- A run asks for no step back at a moment when the small cursor has nothing to step
back to and the large one has. -/
def Undoable (small large : Cursor) (state : σ) (operations : List (Operation σ)) : Prop :=
  ∀ before rest, operations = before ++ .undo :: rest →
    (small.after state before).1.history.isEmpty = true →
      (large.after state before).1.history.isEmpty = true

theorem run_take (cursor : Cursor) (state : σ) (operations : List (Operation σ)) (count : Nat) :
    (cursor.run state operations).take count = cursor.run state (operations.take count) := by
  induction operations generalizing cursor state count with
  | nil => simp [run]
  | cons operation operations ih =>
      cases count with
      | zero => rfl
      | succ count => simp only [run, List.take_succ_cons, ih]

theorem Shadows.run {small large : Cursor} (shadows : Shadows small large) (state : σ)
    (operations : List (Operation σ)) (undoable : Undoable small large state operations) :
    List.Forall₂ Agree (small.run state operations) (large.run state operations) := by
  induction operations generalizing small large state with
  | nil => exact .nil
  | cons operation operations ih =>
      have first : operation = .undo → small.history.isEmpty = true →
          large.history.isEmpty = true := by
        intro kind
        exact undoable [] operations (by rw [kind]; rfl)
      obtain ⟨answers, states, later⟩ := shadows.perform state operation first
      simp only [Cursor.run]
      refine .cons ⟨answers, states, later.view_eq, ?_⟩ ?_
      · exact List.reverse_suffix.2 later.newest
      · rw [← states]
        apply ih later
        intro before rest split
        have starved := undoable (operation :: before) rest (congrArg (operation :: ·) split)
        simp only [after, ← states] at starved
        exact starved

/-- As long as no step back finds only the smaller history empty, cursors that were
set up with different capacities give the same answers and look the same after every
operation, and the smaller history holds the newest positions of the larger one. -/
theorem run_agrees_of_capacity_le (text : String) (registry : Registry) {less more : Nat}
    (order : less ≤ more) (state : σ) (operations : List (Operation σ)) (count : Nat)
    (undoable : Undoable (ofString text ⟨less, registry⟩) (ofString text ⟨more, registry⟩)
      state (operations.take count)) :
    List.Forall₂ Agree
      (((ofString text ⟨less, registry⟩).run state operations).take count)
      (((ofString text ⟨more, registry⟩).run state operations).take count) := by
  rw [run_take, run_take]
  have fresh : Shadows (ofString text ⟨less, registry⟩) (ofString text ⟨more, registry⟩) :=
    ⟨⟨rfl, rfl, rfl⟩, order, List.prefix_rfl⟩
  exact fresh.run state (operations.take count) undoable

/-- Three reads with room for one position and for two: the smaller history has lost
its older entries when the step back comes, and nothing shows it. -/
theorem run_agrees_of_capacity_le_one_two :
    Undoable (ofString "añb" ⟨1, Registry.empty⟩) (ofString "añb" ⟨2, Registry.empty⟩) ()
        ([.read 1, .read 1, .read 1, .undo, .next].take 5) ∧
      List.Forall₂ Agree
        (((ofString "añb" ⟨1, Registry.empty⟩).run ()
          [.read 1, .read 1, .read 1, .undo, .next]).take 5)
        (((ofString "añb" ⟨2, Registry.empty⟩).run ()
          [.read 1, .read 1, .read 1, .undo, .next]).take 5) := by
  have undoable : Undoable (ofString "añb" ⟨1, Registry.empty⟩)
      (ofString "añb" ⟨2, Registry.empty⟩) ()
      ([.read 1, .read 1, .read 1, .undo, .next].take 5) := by
    intro before rest split starved
    have held : ((ofString "añb" ⟨1, Registry.empty⟩).after ()
        [.read 1, .read 1, .read 1]).1.history.isEmpty = false := by rfl
    rcases before with _ | ⟨first, _ | ⟨second, _ | ⟨third, _ | ⟨fourth, _ | ⟨fifth, more⟩⟩⟩⟩⟩
    all_goals simp at split
    obtain ⟨rfl, rfl, rfl, -⟩ := split
    rw [held] at starved
    cases starved
  exact ⟨undoable,
    run_agrees_of_capacity_le "añb" Registry.empty (by decide : 1 ≤ 2) () _ 5 undoable⟩

end Cursor

end TextCursor
