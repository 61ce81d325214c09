import TextCursor.Cursor.Operation
import TextCursor.Cursor.Progress

/-!
# What an operation can do to a cursor

There are six ways for an operation to leave a cursor, and this module says which
(`effect_perform`).  What operations keep is proved by going through them.  One fact
of this kind is that positions stay in any interval that holds the places of the
text and the targets of jumps, step by step (`Within.perform`) and so through a whole
run (`Within.run`).
-/

namespace TextCursor.Cursor

variable {σ : Type}

/-- The ways for an operation to leave a cursor. -/
inductive Effect (cursor : Cursor) (state : σ) : Operation σ → Cursor → Prop where
  | stays {operation : Operation σ} (forgets : cursor.remembers state operation = false) :
      Effect cursor state operation cursor
  | steps {operation : Operation σ} (kind : operation = .next ∨ operation = .skip) :
      Effect cursor state operation cursor.skip
  | jumps (target : Int) : Effect cursor state (.jump target) (cursor.jump target)
  | resets : Effect cursor state .reset cursor.reset
  | undoes : Effect cursor state .undo cursor.undo
  | consumes {operation : Operation σ} {count : Nat}
      (remembers : cursor.remembers state operation = true) (available : count ≤ cursor.left) :
      Effect cursor state operation (cursor.consume count)

/-- Every operation leaves a cursor in one of the six ways. -/
theorem effect_perform (cursor : Cursor) (state : σ) (operation : Operation σ) :
    Effect cursor state operation (cursor.perform state operation).cursor := by
  have accepts : ∀ candidates operation,
      (cursor.perform state operation).cursor = (cursor.acceptAny candidates).2 →
      cursor.remembers state operation = (cursor.acceptAny candidates).1 →
      Effect cursor state operation (cursor.perform state operation).cursor := by
    intro candidates operation performed remembered
    rw [performed]
    cases accepted : (cursor.acceptAny candidates).1 with
    | false =>
        rw [acceptAny_eq_false accepted]
        exact .stays (remembered.trans accepted)
    | true =>
        obtain ⟨count, _, available, moved⟩ := acceptAny_eq_true accepted
        rw [moved]
        exact .consumes (remembered.trans accepted) available
  have reads : ∀ predicate wanted operation,
      (cursor.perform state operation).cursor = (cursor.readRun predicate wanted state).cursor →
      cursor.remembers state operation =
        decide ((cursor.readRun predicate wanted state).text ≠ "") →
      Effect cursor state operation (cursor.perform state operation).cursor := by
    intro predicate wanted operation performed remembered
    rw [performed]
    rcases readRun_cases cursor predicate wanted state with
      ⟨nothing, same⟩ | ⟨something, count, _, available, moved⟩
    · rw [same]
      exact .stays (remembered.trans (decide_eq_false fun some => some nothing))
    · rw [moved]
      exact .consumes (remembered.trans (decide_eq_true something)) available
  cases operation with
  | next => exact .steps (Or.inl rfl)
  | skip => exact .steps (Or.inr rfl)
  | jump target => exact .jumps target
  | reset => exact .resets
  | undo => exact .undoes
  | acceptAny candidates => exact accepts candidates _ rfl rfl
  | acceptClass charClass => exact accepts [charClass.name] _ rfl rfl
  | check name => exact .stays rfl
  | read count => exact .consumes rfl (Nat.min_le_right _ _)
  | readWhile predicate => exact reads predicate true _ rfl rfl
  | readUntil predicate => exact reads predicate false _ rfl rfl

/-! ## Positions in an interval -/

/-- The position and all remembered ones lie in an interval. -/
structure Within (least greatest : Int) (cursor : Cursor) : Prop where
  position : least ≤ cursor.position ∧ cursor.position ≤ greatest
  entries : ∀ entry ∈ cursor.history.entries, least ≤ entry ∧ entry ≤ greatest

namespace Within

variable {least greatest : Int} {cursor : Cursor}

theorem record (within : Within least greatest cursor) :
    Within least greatest cursor.record := by
  refine ⟨within.position, ?_⟩
  intro entry member
  rcases List.mem_cons.1 (List.mem_of_mem_take member) with rfl | older
  · exact within.position
  · exact within.entries entry older

theorem undo (within : Within least greatest cursor) :
    Within least greatest cursor.undo := by
  simp only [Cursor.undo, BoundedStack.peek?_newest]
  cases held : cursor.history.entries with
  | nil => exact within
  | cons entry older =>
      refine ⟨within.entries entry (held ▸ List.mem_cons_self), ?_⟩
      intro other member
      exact within.entries other (List.mem_of_mem_tail member)

/-- An operation keeps all positions in an interval that holds the places of the text
and the target of the jump, if it is one. -/
theorem perform (within : Within least greatest cursor) (start : least ≤ -1)
    (stop : (cursor.source.length : Int) ≤ greatest) (state : σ) (operation : Operation σ)
    (jumps : ∀ target, operation = .jump target → least ≤ target ∧ target ≤ greatest) :
    Within least greatest (cursor.perform state operation).cursor := by
  have effect := effect_perform cursor state operation
  generalize (cursor.perform state operation).cursor = later at effect
  have low := within.position.1
  cases effect with
  | stays => exact within
  | steps =>
      simp only [Cursor.skip]
      split
      · rename_i before
        exact ⟨⟨by simp only; omega, by simp only; omega⟩, within.entries⟩
      · exact within
  | jumps target => exact ⟨jumps target rfl, within.record.entries⟩
  | resets =>
      refine ⟨⟨start, ?_⟩, ?_⟩
      · simp only [Cursor.reset]
        omega
      · intro entry member
        cases member
  | undoes => exact within.undo
  | @consumes _ count _ available =>
      refine ⟨⟨?_, ?_⟩, within.record.entries⟩
      · rw [position_consume]
        omega
      · rw [position_consume]
        by_cases nothing : cursor.left = 0
        · have high := within.position.2
          omega
        · have inside := inside_of_left_pos (Nat.pos_of_ne_zero nothing)
          have size := Cursor.left_eq cursor inside.1
          omega

end Within

theorem source_perform (cursor : Cursor) (state : σ) (operation : Operation σ) :
    (cursor.perform state operation).cursor.source = cursor.source := by
  have effect := effect_perform cursor state operation
  generalize (cursor.perform state operation).cursor = later at effect
  cases effect with
  | steps => exact (follows_skip cursor).source_eq
  | undoes => exact source_undo cursor
  | _ => rfl

theorem registry_perform (cursor : Cursor) (state : σ) (operation : Operation σ) :
    (cursor.perform state operation).cursor.registry = cursor.registry := by
  have effect := effect_perform cursor state operation
  generalize (cursor.perform state operation).cursor = later at effect
  cases effect with
  | steps => simp only [skip]; split <;> rfl
  | undoes => simp only [undo]; split <;> rfl
  | _ => rfl

/-- A run keeps all positions in an interval that holds the places of the text and all
targets of jumps. -/
theorem Within.run {least greatest : Int} {cursor : Cursor}
    (within : Within least greatest cursor) (start : least ≤ -1)
    (stop : (cursor.source.length : Int) ≤ greatest) (state : σ)
    (operations : List (Operation σ))
    (jumps : ∀ target, .jump target ∈ operations → least ≤ target ∧ target ≤ greatest) :
    ∀ outcome ∈ cursor.run state operations, Within least greatest outcome.cursor := by
  induction operations generalizing cursor state with
  | nil =>
      intro outcome member
      cases member
  | cons operation operations ih =>
      intro outcome member
      have later : Within least greatest (cursor.perform state operation).cursor := by
        apply within.perform start stop
        intro target kind
        exact jumps target (kind ▸ List.mem_cons_self)
      rcases List.mem_cons.1 member with rfl | behind
      · exact later
      · apply ih later (by rw [source_perform]; exact stop) _ _ outcome behind
        intro target member
        exact jumps target (List.mem_cons_of_mem _ member)

end TextCursor.Cursor
