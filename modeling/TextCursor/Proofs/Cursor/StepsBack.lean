import Mathlib.Logic.Function.Iterate
import TextCursor.Proofs.Cursor.Steps

/-!
# Steps back

As long as nothing is taken away from it, the history grows by the positions before the
operations that remember one (`history_after`), and steps back go through it from its newest
position on (`position_iterate_undo`).  So they lead to the places where those operations
began, the last one first, however many other operations stand between them
(`iterate_undo_after`).
-/

namespace TextCursor.Cursor

variable {σ : Type}

/-- Whether an operation takes nothing away from the history. -/
def Operation.keepsHistory : Operation σ → Bool
  | .next | .skip | .jump _ | .acceptAny _ | .acceptClass _ | .check _ => true
  | .read _ | .readWhile _ | .readUntil _ => true
  | .reset | .undo => false

/-- The positions that operations remember, in order: each is the one before an operation that
remembers it. -/
def remembered (cursor : Cursor) (state : σ) : List (Operation σ) → List Int
  | [] => []
  | operation :: operations =>
      let outcome := cursor.perform state operation
      if cursor.remembers state operation then
        cursor.position :: remembered outcome.cursor outcome.state operations
      else remembered outcome.cursor outcome.state operations

/-! ## How the history grows -/

theorem history_perform (cursor : Cursor) (state : σ) {operation : Operation σ}
    (keeps : operation.keepsHistory = true) :
    (cursor.perform state operation).cursor.history =
      if cursor.remembers state operation then cursor.history.push cursor.position
      else cursor.history := by
  have effect := effect_perform cursor state operation
  generalize (cursor.perform state operation).cursor = later at effect
  cases effect with
  | stays forgets => rw [forgets]; rfl
  | steps kind =>
      have same : cursor.skip.history = cursor.history := by
        simp only [skip]
        split <;> rfl
      rw [same]
      rcases kind with rfl | rfl <;> rfl
  | jumps target => rfl
  | resets => cases keeps
  | undoes => cases keeps
  | consumes remembers => rw [remembers]; rfl

/-- The history behind several operations is the one before them, with the positions that they
remember on top. -/
theorem history_after (cursor : Cursor) (state : σ) {operations : List (Operation σ)}
    (keeps : ∀ operation ∈ operations, operation.keepsHistory = true) :
    (cursor.after state operations).1.history =
      cursor.history.pushAll (cursor.remembered state operations) := by
  induction operations generalizing cursor state with
  | nil => rfl
  | cons operation operations ih =>
      have first := history_perform cursor state (keeps operation List.mem_cons_self)
      have rest : ∀ other ∈ operations, other.keepsHistory = true := fun other member =>
        keeps other (List.mem_cons_of_mem _ member)
      rw [after, ih _ _ rest, first, remembered]
      split <;> rfl

/-- Each remembered position is the one right before an operation that remembers it, behind as
many others that do as positions were remembered before. -/
theorem exists_split_of_lt_length_remembered (cursor : Cursor) (state : σ)
    (operations : List (Operation σ)) (index : Nat)
    (inside : index < (cursor.remembered state operations).length) :
    ∃ before operation behind, operations = before ++ operation :: behind ∧
      (cursor.after state before).1.remembers (cursor.after state before).2 operation = true ∧
      (cursor.remembered state before).length = index ∧
      (cursor.remembered state operations)[index]? =
        some (cursor.after state before).1.position := by
  induction operations generalizing cursor state index with
  | nil => cases inside
  | cons operation operations ih =>
      rw [remembered] at inside ⊢
      by_cases remembers : cursor.remembers state operation = true
      · simp only [if_pos remembers] at inside ⊢
        cases index with
        | zero => exact ⟨[], operation, operations, rfl, remembers, rfl, rfl⟩
        | succ index =>
            obtain ⟨before, chosen, behind, split, chosenRemembers, count, found⟩ :=
              ih _ _ index (Nat.lt_of_succ_lt_succ inside)
            refine ⟨operation :: before, chosen, behind, congrArg (operation :: ·) split,
              chosenRemembers, ?_, found⟩
            rw [remembered, if_pos remembers, List.length_cons, count]
      · simp only [if_neg remembers] at inside ⊢
        obtain ⟨before, chosen, behind, split, chosenRemembers, count, found⟩ :=
          ih _ _ index inside
        refine ⟨operation :: before, chosen, behind, congrArg (operation :: ·) split,
          chosenRemembers, ?_, found⟩
        rw [remembered, if_neg remembers, count]

/-! ## How it is used up -/

theorem undo_of_nil {cursor : Cursor} (nothing : cursor.history.entries = []) :
    cursor.undo = cursor := by
  rw [undo, BoundedStack.peek?_newest, nothing]
  rfl

theorem position_undo {cursor : Cursor} {position : Int}
    (newest : cursor.history.entries.head? = some position) :
    cursor.undo.position = position := by
  rw [undo, BoundedStack.peek?_newest, newest]

theorem entries_undo (cursor : Cursor) :
    cursor.undo.history.entries = cursor.history.entries.tail := by
  rw [undo, BoundedStack.peek?_newest]
  cases held : cursor.history.entries with
  | nil => exact held
  | cons position older => exact congrArg List.tail held

theorem entries_iterate_undo (cursor : Cursor) (count : Nat) :
    (undo^[count] cursor).history.entries = cursor.history.entries.drop count := by
  induction count with
  | zero => rfl
  | succ count ih => rw [Function.iterate_succ_apply', entries_undo, ih, List.tail_drop]

/-- Steps back lead through the history from its newest position on. -/
theorem position_iterate_undo {cursor : Cursor} {count : Nat} {position : Int}
    (found : cursor.history.entries[count]? = some position) :
    (undo^[count + 1] cursor).position = position := by
  rw [Function.iterate_succ_apply']
  apply position_undo
  rw [entries_iterate_undo, List.head?_drop, found]

/-! ## Back to where operations began -/

/-- Operations of which none takes anything away from the history can be taken back.  Each step
back leads to where one of those began that remembered their position, the last one first, as far
as there are such operations and was room for their positions.  When all the room is used up,
steps back change nothing; and when there was room for all and all are taken back, the history
holds the newest of the positions it held before. -/
theorem iterate_undo_after (cursor : Cursor) (state : σ) (operations : List (Operation σ))
    (keeps : ∀ operation ∈ operations, operation.keepsHistory = true) :
    let later := (cursor.after state operations).1
    let count := (cursor.remembered state operations).length
    let capacity := cursor.history.capacity
    (∀ steps, 1 ≤ steps → steps ≤ min count capacity →
      ∃ before operation behind, operations = before ++ operation :: behind ∧
        (cursor.after state before).1.remembers (cursor.after state before).2 operation = true ∧
        (cursor.remembered state before).length = count - steps ∧
        (undo^[steps] later).position = (cursor.after state before).1.position) ∧
      (capacity ≤ count → ∀ steps, capacity ≤ steps →
        (undo^[steps] later).undo = undo^[steps] later) ∧
      (count ≤ capacity →
        (undo^[count] later).history.entries =
          cursor.history.entries.take (min cursor.history.size (capacity - count))) := by
  intro later count capacity
  have history : later.history.entries =
      ((cursor.remembered state operations).reverse ++ cursor.history.entries).take capacity := by
    rw [history_after cursor state keeps, BoundedStack.entries_pushAll]
  refine ⟨fun steps positive bound => ?_, fun _ steps all => ?_, fun room => ?_⟩
  · obtain ⟨back, rfl⟩ := Nat.exists_eq_add_of_le' positive
    have inside : count - (back + 1) < (cursor.remembered state operations).length := by omega
    obtain ⟨before, operation, behind, split, remembers, index, found⟩ :=
      exists_split_of_lt_length_remembered cursor state operations _ inside
    refine ⟨before, operation, behind, split, remembers, index, position_iterate_undo ?_⟩
    have recent : back < (cursor.remembered state operations).reverse.length := by
      rw [List.length_reverse]
      omega
    rw [history, List.getElem?_take_of_lt (by omega), List.getElem?_append_left recent,
      List.getElem?_reverse (by omega), ← found]
    congr 1
    omega
  · apply undo_of_nil
    rw [entries_iterate_undo, List.drop_eq_nil_iff, history]
    exact Nat.le_trans (List.length_take_le _ _) all
  · have recorded : (cursor.remembered state operations).reverse.length = count :=
      List.length_reverse
    rw [entries_iterate_undo, history, List.drop_take, List.drop_left' recorded,
      List.take_eq_take_min, Nat.min_comm]
    rfl

/-- A cursor in the middle of a text that remembers two positions and has room for no more. -/
def halfway : Cursor :=
  { ofString "añb変cd" ⟨2, Registry.empty⟩ with
    position := 0
    history := BoundedStack.ofList [4, 1] 2 }

/-- A step, a read, a run that ends at once, a run of two characters, a look and a jump out of
the text: three of these operations remember where they began. -/
def mixedOperations : List (Operation Nat) :=
  [.next, .read 1, .readUntil (.test fun asked _ _ => (true, asked)),
    .readWhile (.test fun asked _ run => (decide (run < 2), asked + 1)), .check "c", .jump 9]

/-- The second step back leads to where the second of three operations began, and a third one
finds nothing more to go back to. -/
theorem iterate_undo_after_mixed :
    (∀ operation ∈ mixedOperations, operation.keepsHistory = true) ∧
      (∃ before operation behind, mixedOperations = before ++ operation :: behind ∧
        (halfway.after 0 before).1.remembers (halfway.after 0 before).2 operation = true ∧
        (halfway.remembered 0 before).length = (halfway.remembered 0 mixedOperations).length - 2 ∧
        (undo^[2] (halfway.after 0 mixedOperations).1).position =
          (halfway.after 0 before).1.position) ∧
      (undo^[2] (halfway.after 0 mixedOperations).1).undo =
        undo^[2] (halfway.after 0 mixedOperations).1 := by
  have keeps : ∀ operation ∈ mixedOperations, operation.keepsHistory = true := by
    simp [mixedOperations, Operation.keepsHistory]
  have count : (halfway.remembered 0 mixedOperations).length = 3 := by decide
  obtain ⟨back, nothing, -⟩ := iterate_undo_after halfway 0 mixedOperations keeps
  have room : halfway.history.capacity = 2 := by decide
  rw [count, room] at back nothing
  exact ⟨keeps, count ▸ back 2 (by decide) (by decide), nothing (by decide) 2 (by decide)⟩

end TextCursor.Cursor
