import TextCursor.Proofs.Cursor.Consumption

/-!
# Exhausted cursors

Nothing is ahead of a cursor that rests on the last character or behind it, and nothing is ahead
of one further back than the start either (`atEnd_iff_position`).  On such a cursor an operation
that goes forward finds nothing to read, and only a step moves it at all.  From the place before
the start a step leads to the start, where the whole text is ahead (`atEnd_skip_eq_false_iff`);
everywhere else an exhausted cursor stays exhausted, operation by operation
(`atEnd_perform_eq_false_iff`) and through a whole run (`atEnd_run_iff`).
-/

namespace TextCursor.Cursor

variable {σ : Type} {cursor : Cursor}

/-- Whether an operation moves forward one place without reading. -/
def Operation.isStep : Operation σ → Bool
  | .next | .skip => true
  | .jump _ | .reset | .undo | .acceptAny _ | .acceptClass _ | .check _ => false
  | .read _ | .readWhile _ | .readUntil _ => false

/-- A cursor is exhausted further back than the start, and from the last character on. -/
theorem atEnd_iff_position (cursor : Cursor) :
    cursor.atEnd = true ↔
      cursor.position < -1 ∨ (cursor.source.length : Int) ≤ cursor.position + 1 := by
  rw [atEnd_iff, ahead_eq, Source.length_eq]
  by_cases started : -1 ≤ cursor.position
  · rw [if_pos started, List.drop_eq_nil_iff]
    omega
  · rw [if_neg started]
    exact iff_of_true rfl (.inl (by omega))

/-! ## One operation -/

/-- On an exhausted cursor only steps move. -/
theorem position_perform_of_atEnd (finished : cursor.atEnd = true) (state : σ)
    {operation : Operation σ} (forward : operation.isForward = true)
    (still : operation.isStep = false) :
    (cursor.perform state operation).cursor.position = cursor.position := by
  have nothing : cursor.left = 0 := by
    rw [← length_ahead, (atEnd_iff cursor).1 finished, List.length_nil]
  have effect := effect_perform cursor state operation
  generalize (cursor.perform state operation).cursor = later at effect
  cases effect with
  | stays => rfl
  | steps kind => rcases kind with rfl | rfl <;> cases still
  | jumps target => cases forward
  | resets => cases forward
  | undoes => cases forward
  | @consumes _ count _ available =>
      rw [position_consume]
      omega

theorem position_skip (cursor : Cursor) :
    cursor.skip.position =
      if cursor.position < cursor.source.length then cursor.position + 1
      else cursor.position := by
  unfold skip
  split <;> rfl

theorem perform_of_isStep (cursor : Cursor) (state : σ) {operation : Operation σ}
    (steps : operation.isStep = true) : (cursor.perform state operation).cursor = cursor.skip := by
  cases operation with
  | next => rfl
  | skip => rfl
  | _ => cases steps

/-- A step makes characters available exactly from the place before the start of a text that has
any. -/
theorem atEnd_skip_eq_false_iff (finished : cursor.atEnd = true) :
    cursor.skip.atEnd = false ↔ cursor.position = -2 ∧ 0 < cursor.source.length := by
  rw [← Bool.not_eq_true, atEnd_iff_position, position_skip, (follows_skip cursor).source_eq]
  rw [atEnd_iff_position] at finished
  split <;> omega

/-- Of all operations that go forward, only a step from the place before the start makes
characters available. -/
theorem atEnd_perform_eq_false_iff (finished : cursor.atEnd = true) (state : σ)
    {operation : Operation σ} (forward : operation.isForward = true) :
    (cursor.perform state operation).cursor.atEnd = false ↔
      operation.isStep = true ∧ cursor.position = -2 ∧ 0 < cursor.source.length := by
  cases steps : operation.isStep with
  | true =>
      rw [perform_of_isStep cursor state steps, atEnd_skip_eq_false_iff finished]
      exact (and_iff_right rfl).symm
  | false =>
      have still := position_perform_of_atEnd finished state forward steps
      have stays : (cursor.perform state operation).cursor.atEnd = true := by
        rw [atEnd_iff_position, still, source_perform, ← atEnd_iff_position]
        exact finished
      rw [stays]
      exact iff_of_false (by decide) fun available => Bool.false_ne_true available.1

/-! ## A run -/

/-- An exhausted cursor stays exhausted through a run that goes forward if there is no text, or
if it does not lie before the start, or if it does and the run has too few steps to reach it. -/
theorem atEnd_run_iff (finished : cursor.atEnd = true) (state : σ)
    {operations : List (Operation σ)}
    (forward : ∀ operation ∈ operations, operation.isForward = true) :
    (∀ outcome ∈ cursor.run state operations, outcome.cursor.atEnd = true) ↔
      cursor.source.length = 0 ∨ -1 ≤ cursor.position ∨
        cursor.position + operations.countP Operation.isStep < -1 := by
  -- A step from before the start comes one place nearer to it, so position and steps left to make
  -- have the same sum behind it; the run is over for the induction where the start is reached.
  induction operations generalizing cursor state with
  | nil =>
      rw [List.countP_nil]
      refine iff_of_true (fun outcome member => by cases member) (.inr ?_)
      omega
  | cons operation operations ih =>
      have first := forward operation List.mem_cons_self
      have others : ∀ other ∈ operations, other.isForward = true := fun other member =>
        forward other (List.mem_cons_of_mem _ member)
      rw [run, List.forall_mem_cons, List.countP_cons]
      cases available : (cursor.perform state operation).cursor.atEnd with
      | false =>
          obtain ⟨steps, before, some⟩ :=
            (atEnd_perform_eq_false_iff finished state first).1 available
          rw [if_pos steps]
          refine iff_of_false (fun stays => Bool.false_ne_true stays.1) ?_
          omega
      | true =>
          rw [ih available _ others, source_perform, and_iff_right rfl]
          cases steps : operation.isStep with
          | false =>
              rw [position_perform_of_atEnd finished state first steps]
              simp
          | true =>
              rw [perform_of_isStep cursor state steps] at available ⊢
              rw [atEnd_iff_position] at finished available
              rw [position_skip, (follows_skip cursor).source_eq] at available
              rw [position_skip, if_pos rfl]
              split at available <;> rename_i before
              · rw [if_pos before]
                omega
              · rw [if_neg before]
                omega

/-- A step from the place before the start goes to the start. -/
theorem position_perform_before_start (before : cursor.position = -2) (state : σ)
    {operation : Operation σ} (steps : operation.isStep = true) :
    (cursor.perform state operation).cursor.position = -1 := by
  rw [perform_of_isStep cursor state steps, position_skip, before]
  exact if_pos (by omega)

/-- An exhausted cursor stays exhausted whatever goes forward, but for a step from the place
before the start: that one goes to the start and makes the whole text available.  So the cursor
stays exhausted through a run that goes forward, unless it lies before the start of a text and the
steps of the run reach it. -/
theorem exhausted_stays_exhausted (finished : cursor.atEnd = true) (state : σ) :
    (∀ operation : Operation σ, operation.isForward = true →
      ((cursor.perform state operation).cursor.atEnd = false ↔
        operation.isStep = true ∧ cursor.position = -2 ∧ 0 < cursor.source.length)) ∧
    (∀ operation : Operation σ, operation.isStep = true → cursor.position = -2 →
      (cursor.perform state operation).cursor.position = -1) ∧
    ∀ operations : List (Operation σ), (∀ operation ∈ operations, operation.isForward = true) →
      ((∀ outcome ∈ cursor.run state operations, outcome.cursor.atEnd = true) ↔
        cursor.source.length = 0 ∨ -1 ≤ cursor.position ∨
          cursor.position + operations.countP Operation.isStep < -1) :=
  ⟨fun _ forward => atEnd_perform_eq_false_iff finished state forward,
    fun _ steps before => position_perform_before_start before state steps,
    fun _ forward => atEnd_run_iff finished state forward⟩

/-- Two places before the start one step is not enough, and two are, whatever stands between
them. -/
theorem exhausted_stays_exhausted_before_start :
    ((ofString "é").jump (-3)).atEnd = true ∧
      (((ofString "é").jump (-3)).perform () .skip).cursor.atEnd = true ∧
      ¬ ∀ outcome ∈ ((ofString "é").jump (-3)).run () [.skip, .read 4, .check "é", .next],
        outcome.cursor.atEnd = true := by
  have finished : ((ofString "é").jump (-3)).atEnd = true := rfl
  obtain ⟨single, -, run⟩ := exhausted_stays_exhausted finished ()
  refine ⟨finished, ?_, ?_⟩
  · rw [← Bool.not_eq_false, single .skip rfl]
    decide
  · rw [run _ (by simp [Operation.isForward])]
    decide

/-- The place before the start is exhausted, and a step from there is not. -/
theorem available_behind_step :
    ((ofString "a").jump (-2)).atEnd = true ∧ ((ofString "a").jump (-2)).skip.atEnd = false ∧
      ((ofString "a").jump (-2)).next.2.atEnd = false ∧
      ¬ ∀ (text : String) (earlier : List (Operation Unit)) (operation : Operation Unit),
        operation.isForward = true → ((ofString text).after () earlier).1.atEnd = true →
          (((ofString text).after () earlier).1.perform () operation).cursor.atEnd = true := by
  refine ⟨rfl, rfl, rfl, fun stays => ?_⟩
  exact absurd (stays "a" [.jump (-2)] .skip rfl rfl) (by decide)

end TextCursor.Cursor
