import TextCursor.Proofs.Cursor.Rewind
import TextCursor.Proofs.Lexer.Rounds

/-!
# Where going back ends

A reader that fails goes back to where it began: it takes steps back for as long as the cursor is
elsewhere and remembers positions (`backRound?`).  Each round uses up one of the positions, so
the loop stops, and with the cursor that `rewind` gives (`exists_rounds_rewind`).  The rounds lead
through the history from its newest position on.  They end where the wanted position was
remembered last (`rewind_of_entries_eq`), which need not be where the reader began; and if it was
not remembered, they end at the oldest position of all (`rewind_of_notMem`).
-/

namespace TextCursor.Cursor

variable {start : Int} {cursor : Cursor}

/-! ## The loop -/

/-- One more round of going back to a position, if there is one. -/
def backRound? (start : Int) (cursor : Cursor) : Option Cursor :=
  if cursor.position ≠ start ∧ 0 < cursor.history.size then some cursor.undo else none

theorem backRound?_eq_some {first second : Cursor} :
    backRound? start first = some second ↔
      (first.position ≠ start ∧ 0 < first.history.size) ∧ first.undo = second := by
  rw [backRound?, Option.ite_none_right_eq_some, Option.some.injEq]

/-- Each round leaves one position less to step back to. -/
theorem spends_size (start : Int) :
    Spends (backRound? start) (fun _ => True) 1 fun state => state.history.size := by
  intro first second _ found
  obtain ⟨⟨-, held⟩, rfl⟩ := backRound?_eq_some.1 found
  have fewer : first.undo.history.size = first.history.size - 1 := by
    rw [BoundedStack.size, entries_undo, List.length_tail]
    rfl
  refine ⟨trivial, ?_⟩
  show 1 + first.undo.history.size ≤ first.history.size
  omega

theorem rewind_backRound? {first second : Cursor} (found : backRound? start first = some second) :
    first.rewind start = second.rewind start := by
  obtain ⟨⟨elsewhere, -⟩, rfl⟩ := backRound?_eq_some.1 found
  exact (rewind_undo elsewhere).symm

theorem rewind_of_backRound?_eq_none (stopped : backRound? start cursor = none) :
    cursor.rewind start = cursor := by
  by_cases there : cursor.position = start
  · exact rewind_of_position_eq there
  · refine rewind_of_nil (List.eq_nil_of_length_eq_zero (Nat.eq_zero_of_not_pos fun held => ?_))
    rw [backRound?, if_pos ⟨there, held⟩] at stopped
    cases stopped

/-- The loop stops with what is gone back to, after no more rounds than there are positions to
step back to. -/
theorem exists_rounds_rewind (start : Int) (cursor : Cursor) :
    ∃ count ≤ cursor.history.size,
      Rounds (backRound? start) count cursor (cursor.rewind start) ∧
        backRound? start (cursor.rewind start) = none := by
  obtain ⟨count, last, rounds, stopped⟩ :=
    Rounds.exists_last (spends_size start) Nat.one_pos cursor trivial
  have same : cursor.rewind start = last :=
    (rounds.kept_eq rewind_backRound?).trans (rewind_of_backRound?_eq_none stopped)
  have paid := (rounds.spent (spends_size start) trivial).2
  rw [Nat.one_mul] at paid
  rw [same]
  exact ⟨count, Nat.le_of_add_right_le paid, rounds, stopped⟩

/-! ## Where it ends -/

/-- The cursor ends where the position was remembered last, and remembers the older ones. -/
theorem rewind_of_entries_eq {newer older : List Int} (elsewhere : cursor.position ≠ start)
    (split : cursor.history.entries = newer ++ start :: older) (newest : start ∉ newer) :
    (cursor.rewind start).position = start ∧
      (cursor.rewind start).history.entries = older := by
  rw [← rewind_undo elsewhere]
  induction newer generalizing cursor with
  | nil =>
      have there : cursor.undo.position = start := position_undo (by rw [split]; rfl)
      rw [rewind_of_position_eq there]
      exact ⟨there, by rw [entries_undo, split]; rfl⟩
  | cons entry newer ih =>
      have next : cursor.undo.position = entry := position_undo (by rw [split]; rfl)
      have still : cursor.undo.position ≠ start := next ▸ (List.ne_of_not_mem_cons newest).symm
      rw [← rewind_undo still]
      exact ih still (by rw [entries_undo, split]; rfl) (List.not_mem_of_not_mem_cons newest)

/-- The cursor ends at the oldest position, if it remembers any and the wanted one is not among
them. -/
theorem rewind_of_notMem (elsewhere : cursor.position ≠ start)
    (missing : start ∉ cursor.history.entries) :
    (cursor.rewind start).position = cursor.history.entries.getLast?.getD cursor.position ∧
      (cursor.rewind start).history.entries = [] := by
  induction held : cursor.history.entries generalizing cursor with
  | nil =>
      rw [rewind_of_nil held]
      exact ⟨rfl, held⟩
  | cons entry older ih =>
      rw [held] at missing
      have next : cursor.undo.position = entry := position_undo (by rw [held]; rfl)
      have rest : cursor.undo.history.entries = older := by rw [entries_undo, held]; rfl
      have still : cursor.undo.position ≠ start := next ▸ (List.ne_of_not_mem_cons missing).symm
      rw [← rewind_undo elsewhere, List.getLast?_cons, Option.getD_some, ← next]
      exact ih still (rest ▸ List.not_mem_of_not_mem_cons missing) rest

/-- The later cursor is the earlier one gone back to a position, as far as its history goes. -/
structure GoneBack (start : Int) (cursor later : Cursor) : Prop where
  source_eq : later.source = cursor.source
  registry_eq : later.registry = cursor.registry
  capacity_eq : later.history.capacity = cursor.history.capacity
  /-- At the position itself nothing changes. -/
  of_there : cursor.position = start → later = cursor
  /-- Of the remembered positions those are kept that are older than the newest entry of the
  wanted one. -/
  of_remembered : cursor.position ≠ start → start ∈ cursor.history.toList →
    later.position = start ∧
      ∃ newer, cursor.history.toList = later.history.toList ++ start :: newer ∧ start ∉ newer
  /-- Without an entry of the wanted position all others are used up, down to the oldest. -/
  of_missing : cursor.position ≠ start → start ∉ cursor.history.toList →
    later.position = (cursor.history.peek? .oldest).getD cursor.position ∧
      later.history.toList = []

/-- What a step back does not change. -/
theorem unchanged_undo (cursor : Cursor) :
    (cursor.source, cursor.registry, cursor.history.capacity) =
      (cursor.undo.source, cursor.undo.registry, cursor.undo.history.capacity) := by
  unfold undo
  split <;> rfl

theorem goneBack_rewind (start : Int) (cursor : Cursor) :
    GoneBack start cursor (cursor.rewind start) := by
  obtain ⟨count, -, rounds, -⟩ := exists_rounds_rewind start cursor
  have unchanged := rounds.kept_eq fun {first second} found => by
    obtain ⟨-, rfl⟩ := backRound?_eq_some.1 found
    exact unchanged_undo first
  simp only [Prod.mk.injEq] at unchanged
  obtain ⟨source, registry, capacity⟩ := unchanged
  refine ⟨source.symm, registry.symm, capacity.symm, fun there => ?_,
    fun elsewhere remembered => ?_, fun elsewhere missing => ?_⟩
  · exact rewind_of_position_eq there
  · obtain ⟨newer, older, split, newest⟩ :=
      List.eq_append_cons_of_mem (List.mem_reverse.1 remembered)
    obtain ⟨position, kept⟩ := rewind_of_entries_eq elsewhere split newest
    refine ⟨position, newer.reverse, ?_, fun again => newest (List.mem_reverse.1 again)⟩
    rw [BoundedStack.toList, BoundedStack.toList, kept, split, List.reverse_append,
      List.reverse_cons, List.append_assoc, List.singleton_append]
  · obtain ⟨position, spent⟩ :=
      rewind_of_notMem elsewhere fun held => missing (List.mem_reverse.2 held)
    exact ⟨position, congrArg List.reverse spent⟩

/-- Going back to a position comes to an end from every cursor, and changes neither the text nor
the classes.  If the cursor is there already, nothing changes.  If it remembers the position, it
is there in the end and remembers what is older than the newest entry of it.  Else it remembers
nothing any more and is at the position that was the oldest, or where it was if there was none. -/
theorem rewind_ends (cursor : Cursor) (start : Int) :
    (∃ count ≤ cursor.history.size,
      Rounds (backRound? start) count cursor (cursor.rewind start) ∧
        backRound? start (cursor.rewind start) = none) ∧
      GoneBack start cursor (cursor.rewind start) :=
  ⟨exists_rounds_rewind start cursor, goneBack_rewind start cursor⟩

/-- The position that is gone back to is remembered twice, and the older entry is kept. -/
example :
    let later := { ofString "" with
      position := 7, history := BoundedStack.ofList [4, 1, 4, 9] 5 : Cursor }.rewind 4
    later.position = 4 ∧ later.history.toList = [4, 1] := by decide

end TextCursor.Cursor
