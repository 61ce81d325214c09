import TextCursor.Cursor.Basic
import TextCursor.BoundedStack.Lemmas
import TextCursor.Source.Lemmas

/-!
# Progress

How operations move a cursor forward.  `Follows` relates a cursor to an earlier one
on the same text; a cursor that follows has no more characters ahead, and strictly
fewer if it moved while there were any (`Follows.left_lt`).  Lexers end because
every round of theirs follows with a move.  Stepping back with `rewind` never goes
behind the position from which the remembered steps started (`Guarded`).
-/

namespace TextCursor.Cursor

/-! ## Following cursors -/

/-- The later cursor is on the same text, and not behind the earlier one. -/
structure Follows (later earlier : Cursor) : Prop where
  source_eq : later.source = earlier.source
  position_le : earlier.position ≤ later.position

namespace Follows

theorem refl (cursor : Cursor) : Follows cursor cursor := ⟨rfl, Int.le_refl _⟩

theorem trans {last later earlier : Cursor} (second : Follows last later)
    (first : Follows later earlier) : Follows last earlier :=
  ⟨second.source_eq.trans first.source_eq, Int.le_trans first.position_le second.position_le⟩

end Follows

/-- From a position that is not before the start, the characters ahead are those
behind the position. -/
theorem left_eq (cursor : Cursor) (started : -1 ≤ cursor.position) :
    cursor.left = cursor.source.length - (cursor.position + 1).toNat := by
  unfold left head?
  split <;> rename_i found
  · split at found
    · cases found
      rfl
    · cases found
  · split at found
    · cases found
    · rename_i outside
      have behind : ¬ cursor.position < cursor.source.length := fun before =>
        outside ⟨started, before⟩
      omega

/-- A cursor with characters ahead is inside the text. -/
theorem inside_of_left_pos {cursor : Cursor} (ahead : 0 < cursor.left) :
    -1 ≤ cursor.position ∧ cursor.position + 1 < cursor.source.length := by
  unfold left head? at ahead
  split at ahead <;> rename_i found
  · split at found
    · rename_i inside
      cases found
      omega
    · cases found
  · exact absurd ahead (Nat.lt_irrefl 0)

theorem left_pos_of_atEnd {cursor : Cursor} (notDone : cursor.atEnd = false) :
    0 < cursor.left := by
  simp only [atEnd, beq_eq_false_iff_ne, ne_eq] at notDone
  exact Nat.pos_of_ne_zero notDone

/-- A place to read from is inside the text. -/
theorem inside_of_head? {cursor : Cursor} {head : Nat} (found : cursor.head? = some head) :
    -1 ≤ cursor.position ∧ cursor.position < cursor.source.length ∧
      (head : Int) = cursor.position + 1 := by
  unfold head? at found
  split at found
  · rename_i inside
    cases found
    omega
  · cases found

theorem left_of_head? {cursor : Cursor} {head : Nat} (found : cursor.head? = some head) :
    cursor.left = cursor.source.length - head := by
  rw [left, found]

theorem Follows.left_le {later earlier : Cursor} (follows : Follows later earlier)
    (started : -1 ≤ earlier.position) : later.left ≤ earlier.left := by
  have order := follows.position_le
  rw [left_eq earlier started, left_eq later (Int.le_trans started order), follows.source_eq]
  omega

theorem Follows.left_lt {later earlier : Cursor} (follows : Follows later earlier)
    (ahead : 0 < earlier.left) (moved : earlier.position < later.position) :
    later.left < earlier.left := by
  obtain ⟨started, before⟩ := inside_of_left_pos ahead
  rw [left_eq earlier started, left_eq later (Int.le_trans started follows.position_le),
    follows.source_eq]
  omega

/-! ## Single operations -/

@[simp] theorem source_consume (cursor : Cursor) (count : Nat) :
    (cursor.consume count).source = cursor.source := rfl

@[simp] theorem position_consume (cursor : Cursor) (count : Nat) :
    (cursor.consume count).position = cursor.position + count := rfl

@[simp] theorem history_consume (cursor : Cursor) (count : Nat) :
    (cursor.consume count).history = cursor.history.push cursor.position := rfl

theorem follows_consume (cursor : Cursor) (count : Nat) :
    Follows (cursor.consume count) cursor := by
  refine ⟨rfl, ?_⟩
  rw [position_consume]
  omega

theorem follows_skip (cursor : Cursor) : Follows cursor.skip cursor := by
  unfold skip
  split
  · exact ⟨rfl, Int.le_add_one (Int.le_refl _)⟩
  · exact Follows.refl cursor

/-- A step forward moves if there is a character ahead. -/
theorem position_skip_of_left_pos {cursor : Cursor} (ahead : 0 < cursor.left) :
    cursor.skip.position = cursor.position + 1 := by
  have inside := inside_of_left_pos ahead
  have before : cursor.position < cursor.source.length := by omega
  rw [skip, if_pos before]

theorem follows_next (cursor : Cursor) : Follows cursor.next.2 cursor := follows_skip cursor

/-- A text that is spelled at a place is not empty, and ends inside the source. -/
theorem literalLength?_bounds {cursor : Cursor} {place count : Nat} {text : String}
    (covered : cursor.literalLength? place text = some count) :
    0 < count ∧ place + count ≤ cursor.source.length := by
  simp only [literalLength?] at covered
  split at covered
  · cases covered
  · rename_i fits
    split at covered
    · cases covered
      omega
    · cases covered

/-- What a name covers is not empty, and ends inside the source. -/
theorem matchLength?_bounds {cursor : Cursor} {place count : Nat} {name : String}
    (covered : cursor.matchLength? place name = some count) :
    0 < count ∧ place + count ≤ cursor.source.length := by
  simp only [matchLength?] at covered
  split at covered
  · split at covered
    · rename_i char found
      split at covered
      · cases covered
        exact ⟨Nat.one_pos, Source.lt_of_charAt? found⟩
      · cases covered
    · cases covered
  · exact literalLength?_bounds covered
  · exact literalLength?_bounds covered

/-- What a name covers ahead is not empty, and is ahead. -/
theorem probe?_bounds {cursor : Cursor} {name : String} {count : Nat}
    (covered : cursor.probe? name = some count) : 0 < count ∧ count ≤ cursor.left := by
  simp only [probe?] at covered
  split at covered
  · rename_i head found
    have bounds := matchLength?_bounds covered
    rw [left_of_head? found]
    omega
  · cases covered

theorem probeAny?_bounds {cursor : Cursor} {candidates : List String} {count : Nat}
    (covered : cursor.probeAny? candidates = some count) : 0 < count ∧ count ≤ cursor.left := by
  obtain ⟨name, _, fits⟩ := List.exists_of_findSome?_eq_some covered
  exact probe?_bounds fits

/-- A fitting name moves the cursor over what it covers. -/
theorem acceptAny_eq_true {cursor : Cursor} {candidates : List String}
    (accepted : (cursor.acceptAny candidates).1 = true) :
    ∃ count, 0 < count ∧ count ≤ cursor.left ∧
      (cursor.acceptAny candidates).2 = cursor.consume count := by
  unfold acceptAny at accepted ⊢
  split
  · rename_i count found
    have bounds := probeAny?_bounds found
    exact ⟨count, bounds.1, bounds.2, rfl⟩
  · rename_i found
    rw [found] at accepted
    cases accepted

/-- If no name fits, nothing changes. -/
theorem acceptAny_eq_false {cursor : Cursor} {candidates : List String}
    (refused : (cursor.acceptAny candidates).1 = false) :
    (cursor.acceptAny candidates).2 = cursor := by
  unfold acceptAny at refused ⊢
  split
  · rename_i found
    rw [found] at refused
    cases refused
  · rfl

theorem follows_acceptAny (cursor : Cursor) (candidates : List String) :
    Follows (cursor.acceptAny candidates).2 cursor := by
  cases accepted : (cursor.acceptAny candidates).1 with
  | true =>
      obtain ⟨count, _, _, moved⟩ := acceptAny_eq_true accepted
      rw [moved]
      exact follows_consume cursor count
  | false =>
      rw [acceptAny_eq_false accepted]
      exact Follows.refl cursor

/-- A fitting name moves the cursor. -/
theorem position_lt_acceptAny {cursor : Cursor} {candidates : List String}
    (accepted : (cursor.acceptAny candidates).1 = true) :
    cursor.position < (cursor.acceptAny candidates).2.position := by
  obtain ⟨count, positive, _, moved⟩ := acceptAny_eq_true accepted
  rw [moved, position_consume]
  omega

/-! ## Runs -/

variable {σ : Type}

theorem extent_le (cursor : Cursor) (predicate : Predicate σ) (wanted : Bool) (start : Nat) :
    ∀ (ahead run : Nat) (state : σ),
      (cursor.extent predicate wanted start ahead run state).1 ≤ run + ahead := by
  intro ahead
  induction ahead with
  | zero =>
      intro run state
      exact Nat.le_refl run
  | succ ahead ih =>
      intro run state
      simp only [extent]
      split
      · rw [← Nat.add_assoc, Nat.add_right_comm]
        exact ih (run + 1) _
      · exact Nat.le_add_right _ _

/-- A run is empty and leaves the cursor where it is, or it has a text and is
consumed. -/
theorem readRun_cases (cursor : Cursor) (predicate : Predicate σ) (wanted : Bool) (state : σ) :
    ((cursor.readRun predicate wanted state).text = "" ∧
        (cursor.readRun predicate wanted state).cursor = cursor) ∨
      ((cursor.readRun predicate wanted state).text ≠ "" ∧
        ∃ count, 0 < count ∧ count ≤ cursor.left ∧
          (cursor.readRun predicate wanted state).cursor = cursor.consume count) := by
  simp only [readRun]
  split
  · exact .inl ⟨rfl, rfl⟩
  · rename_i head found
    have bound := extent_le cursor predicate wanted head cursor.left 0 state
    rw [Nat.zero_add] at bound
    split
    · rename_i nothing
      refine .inl ⟨?_, rfl⟩
      rw [nothing]
      exact Source.slice_self _ _
    · rename_i something
      have positive := Nat.pos_of_ne_zero something
      have size := left_of_head? found
      refine .inr ⟨?_, _, positive, bound, rfl⟩
      exact Source.slice_ne_empty _ (Nat.lt_add_of_pos_right positive) (by omega)

theorem follows_readRun (cursor : Cursor) (predicate : Predicate σ) (wanted : Bool) (state : σ) :
    Follows (cursor.readRun predicate wanted state).cursor cursor := by
  rcases readRun_cases cursor predicate wanted state with ⟨_, same⟩ | ⟨_, count, _, _, moved⟩
  · rw [same]
    exact Follows.refl cursor
  · rw [moved]
    exact follows_consume cursor count

/-- A run with a text moves the cursor. -/
theorem position_lt_readRun {cursor : Cursor} {predicate : Predicate σ} {wanted : Bool}
    {state : σ} (some : (cursor.readRun predicate wanted state).text ≠ "") :
    cursor.position < (cursor.readRun predicate wanted state).cursor.position := by
  rcases readRun_cases cursor predicate wanted state with
    ⟨none, _⟩ | ⟨_, count, positive, _, moved⟩
  · exact absurd none some
  · rw [moved, position_consume]
    omega

/-- Reading a run leaves no more characters ahead. -/
theorem left_readRun_le (cursor : Cursor) (predicate : Predicate σ) (wanted : Bool) (state : σ) :
    (cursor.readRun predicate wanted state).cursor.left ≤ cursor.left := by
  rcases readRun_cases cursor predicate wanted state with
    ⟨_, same⟩ | ⟨_, count, positive, available, moved⟩
  · exact Nat.le_of_eq (congrArg left same)
  · have started := (inside_of_left_pos (Nat.lt_of_lt_of_le positive available)).1
    rw [moved]
    exact (follows_consume cursor count).left_le started

/-! ## Stepping back -/

/-- The remembered positions, newest first, do not lie before `start` up to the
newest one that is `start` itself. -/
def Guarded (start : Int) : List Int → Prop
  | [] => True
  | entry :: entries => start ≤ entry ∧ (entry = start ∨ Guarded start entries)

theorem Guarded.take {start : Int} {entries : List Int} (guarded : Guarded start entries)
    (count : Nat) : Guarded start (entries.take count) := by
  induction entries generalizing count with
  | nil => simpa using guarded
  | cons entry entries ih =>
      cases count with
      | zero => trivial
      | succ count =>
          rw [List.take_succ_cons]
          exact ⟨guarded.1, guarded.2.imp id fun older => ih older count⟩

/-- A cursor that started at a position, has not gone behind it, and remembers only
steps taken since, down to that position. -/
structure Since (start : Int) (cursor : Cursor) : Prop where
  position_le : start ≤ cursor.position
  guarded : cursor.position = start ∨ Guarded start cursor.history.entries

theorem Since.refl (cursor : Cursor) : Since cursor.position cursor :=
  ⟨Int.le_refl _, Or.inl rfl⟩

theorem Since.consume {start : Int} {cursor : Cursor} (since : Since start cursor)
    (count : Nat) : Since start (cursor.consume count) := by
  constructor
  · have order := since.position_le
    rw [position_consume]
    omega
  · right
    have pushed : Guarded start (cursor.position :: cursor.history.entries) :=
      ⟨since.position_le, since.guarded⟩
    rw [history_consume, BoundedStack.entries_push]
    exact pushed.take _

theorem Since.acceptAny {start : Int} {cursor : Cursor} (since : Since start cursor)
    (candidates : List String) : Since start (cursor.acceptAny candidates).2 := by
  cases accepted : (cursor.acceptAny candidates).1 with
  | true =>
      obtain ⟨count, _, _, moved⟩ := acceptAny_eq_true accepted
      rw [moved]
      exact since.consume count
  | false =>
      rw [acceptAny_eq_false accepted]
      exact since

theorem Since.readRun {start : Int} {cursor : Cursor} (since : Since start cursor)
    (predicate : Predicate σ) (wanted : Bool) (state : σ) :
    Since start (cursor.readRun predicate wanted state).cursor := by
  rcases readRun_cases cursor predicate wanted state with ⟨_, same⟩ | ⟨_, count, _, _, moved⟩
  · rw [same]
    exact since
  · rw [moved]
    exact since.consume count

@[simp] theorem source_undo (cursor : Cursor) : cursor.undo.source = cursor.source := by
  unfold undo
  split <;> rfl

/-- Stepping back from another position than `start` does not go behind `start`. -/
theorem Since.undo {start : Int} {cursor : Cursor} (since : Since start cursor)
    (away : cursor.position ≠ start) : Since start cursor.undo := by
  have guarded := since.guarded.resolve_left away
  unfold Cursor.undo
  rw [BoundedStack.peek?_newest]
  cases entries : cursor.history.entries with
  | nil => exact since
  | cons entry older =>
      rw [entries] at guarded
      refine ⟨guarded.1, guarded.2.imp id fun olderGuarded => ?_⟩
      show Guarded start cursor.history.pop.entries
      rw [BoundedStack.entries_pop, entries]
      exact olderGuarded

theorem Since.rewindThrough {start : Int} (entries : List Int) {cursor : Cursor}
    (since : Since start cursor) : Since start (rewindThrough start entries cursor) := by
  induction entries generalizing cursor with
  | nil => exact since
  | cons entry entries ih =>
      unfold Cursor.rewindThrough
      split
      · exact since
      · rename_i away
        exact ih (since.undo away)

theorem source_rewindThrough (start : Int) (entries : List Int) (cursor : Cursor) :
    (rewindThrough start entries cursor).source = cursor.source := by
  induction entries generalizing cursor with
  | nil => rfl
  | cons entry entries ih =>
      unfold rewindThrough
      split
      · rfl
      · rw [ih, source_undo]

@[simp] theorem source_rewind (cursor : Cursor) (start : Int) :
    (cursor.rewind start).source = cursor.source :=
  source_rewindThrough start cursor.history.entries cursor

/-- Stepping back to where the steps started does not go behind it. -/
theorem Since.rewind {start : Int} {cursor : Cursor} (since : Since start cursor) :
    Since start (cursor.rewind start) :=
  since.rewindThrough cursor.history.entries

end TextCursor.Cursor
