import TextCursor.Proofs.Cursor.Ahead
import TextCursor.Proofs.Cursor.StepsBack

/-!
# Giving back what was consumed

To go back to a position is to take steps back for as long as the cursor is elsewhere
(`rewind_of_position_eq`, `rewind_undo`).  A cursor with room for one position can always
take its last move back (`GivenBack.undo_consume`), and going back to where the move began is
no more than that (`rewind_consume`).  What the history held before does not matter; if it was
full, it has lost its oldest position.
-/

namespace TextCursor.Cursor

/-- There is nothing to give back at the place to go back to. -/
theorem rewind_of_position_eq {start : Int} {cursor : Cursor} (there : cursor.position = start) :
    cursor.rewind start = cursor := by
  rw [rewind]
  cases cursor.history.entries with
  | nil => rfl
  | cons entry older => rw [rewindThrough, if_pos there]

@[simp] theorem rewind_position (cursor : Cursor) : cursor.rewind cursor.position = cursor :=
  rewind_of_position_eq rfl

/-- There is nothing to give back with if no position is remembered. -/
theorem rewind_of_nil {start : Int} {cursor : Cursor} (nothing : cursor.history.entries = []) :
    cursor.rewind start = cursor := by
  rw [rewind, nothing]
  rfl

/-- From any other place, going back begins with a step back. -/
theorem rewind_undo {start : Int} {cursor : Cursor} (elsewhere : cursor.position ≠ start) :
    cursor.undo.rewind start = cursor.rewind start := by
  cases held : cursor.history.entries with
  | nil => rw [undo_of_nil held]
  | cons entry older =>
      rw [rewind, entries_undo, rewind, held, rewindThrough, if_neg elsewhere]
      rfl

theorem undo_consume {cursor : Cursor} (room : 0 < cursor.history.capacity) (count : Nat) :
    (cursor.consume count).undo =
      { cursor with history := (cursor.history.push cursor.position).pop } := by
  have newest := cursor.history.head?_entries_push cursor.position room
  rw [← BoundedStack.peek?_newest] at newest
  simp only [undo, history_consume, newest]
  rfl

/-- Going back to where the last move began takes back that move and no other. -/
theorem rewind_consume {cursor : Cursor} (room : 0 < cursor.history.capacity) {count : Nat}
    (moved : 0 < count) :
    (cursor.consume count).rewind cursor.position = (cursor.consume count).undo := by
  have elsewhere : (cursor.consume count).position ≠ cursor.position := by
    rw [position_consume]
    omega
  have back : (cursor.consume count).undo.position = cursor.position := by
    rw [undo_consume room]
  rw [← rewind_undo elsewhere, rewind_of_position_eq back]

/-- A cursor that went on to `attempt` came back, and nothing shows that it was away but that
a full history has forgotten its oldest position, if the cursor moved at all. -/
structure GivenBack (cursor attempt later : Cursor) : Prop where
  source_eq : later.source = cursor.source
  registry_eq : later.registry = cursor.registry
  position_eq : later.position = cursor.position
  capacity_eq : later.history.capacity = cursor.history.capacity
  toList_eq : later.history.toList =
    if cursor.history.size = cursor.history.capacity ∧ cursor.position < attempt.position then
      cursor.history.toList.tail
    else cursor.history.toList

namespace GivenBack

variable {cursor attempt later : Cursor}

theorem refl (cursor : Cursor) : GivenBack cursor cursor cursor where
  source_eq := rfl
  registry_eq := rfl
  position_eq := rfl
  capacity_eq := rfl
  toList_eq := (if_neg fun moved => Int.lt_irrefl _ moved.2).symm

/-- A step back gives a move back. -/
theorem undo_consume (room : 0 < cursor.history.capacity) {count : Nat} (moved : 0 < count) :
    GivenBack cursor (cursor.consume count) (cursor.consume count).undo := by
  have further : cursor.position < (cursor.consume count).position := by
    rw [position_consume]
    omega
  rw [Cursor.undo_consume room]
  refine ⟨rfl, rfl, rfl, rfl, ?_⟩
  simp only [further, and_true]
  exact BoundedStack.toList_pop_push room cursor.position

/-- A cursor that gave everything back reads the same as before. -/
theorem advanced (back : GivenBack cursor attempt later) : Advanced later cursor 0 where
  source_eq := back.source_eq
  registry_eq := back.registry_eq
  capacity_eq := back.capacity_eq
  position_eq := back.position_eq.trans (Int.add_zero _).symm

end GivenBack

end TextCursor.Cursor
