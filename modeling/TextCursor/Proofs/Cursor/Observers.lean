import TextCursor.Proofs.Cursor.Consumption
import TextCursor.Proofs.Cursor.MachineSafety
import TextCursor.Proofs.Cursor.Runs

/-!
# What a cursor shows

What comes next can be asked of a cursor in several ways: it shows the next character, the text
that remains and whether anything does; a step gives a character, and names and readers find what
they find.  Each of them works out its own place and has its own guard for positions outside the
text, and yet they agree at every position (`Agreement`).  On a machine the guards differ
more, since the next position need not fit a word, and they still agree from the least position
to the greatest (`observers_agree`).
-/

namespace TextCursor.Cursor

variable {σ : Type} {cursor : Cursor}

/-! ## Looking and stepping -/

/-- Whether anything is ahead can be seen from the next character. -/
theorem atEnd_iff_peek? (cursor : Cursor) : cursor.atEnd = true ↔ cursor.peek? = none := by
  rw [atEnd_iff, peek?_eq, List.head?_eq_none_iff]

/-- Whether anything is ahead can be seen from the text that remains. -/
theorem atEnd_iff_remaining (cursor : Cursor) : cursor.atEnd = true ↔ cursor.remaining = "" := by
  rw [atEnd_iff, ahead, String.toList_eq_nil_iff]

/-- A step gives the character that was next.  Where a step does not move, there was none, and
there is none at the position either. -/
theorem next_fst (cursor : Cursor) : cursor.next.1 = cursor.peek? := by
  by_cases before : cursor.position < cursor.source.length
  · simp only [next, skip, if_pos before]
    rfl
  · have outside (place : Int) (behind : cursor.position ≤ place) :
        cursor.source.charAt? place = none := by
      rw [Source.charAt?, if_neg (by omega)]
    simp only [next, skip, if_neg before]
    exact (outside _ (Int.le_refl _)).trans (outside _ (by omega)).symm

/-- The text that remains is the next character and what remains behind it. -/
theorem remaining_of_peek? {char : Char} (some : cursor.peek? = some char) :
    cursor.remaining = String.singleton char ++ cursor.skip.remaining := by
  rw [peek?_eq] at some
  obtain ⟨chars, ahead⟩ := List.head?_eq_some_iff.1 some
  have started := (inside_of_left_pos (left_pos_of_ahead ahead)).1
  have behind := (next_of_ahead ahead).2.ahead_eq started
  rw [ahead] at behind
  rw [← String.toList_inj, String.toList_append, String.toList_singleton]
  exact ahead.trans (congrArg (char :: ·) behind.symm)

/-! ## Nothing ahead -/

section AtEnd

variable (finished : cursor.atEnd = true)
include finished

theorem probe?_of_atEnd (name : String) : cursor.probe? name = none := by
  rw [probe?_eq, (atEnd_iff cursor).1 finished, Registry.covers?_nil]

theorem check_of_atEnd (name : String) : cursor.check name = false := by
  rw [check, probe?_of_atEnd finished]
  rfl

theorem acceptAny_of_atEnd (candidates : List String) :
    cursor.acceptAny candidates = (false, cursor) := by
  have uncovered : cursor.probeAny? candidates = none :=
    List.findSome?_eq_none_iff.2 fun name _ => probe?_of_atEnd finished name
  rw [acceptAny, uncovered]

/-- A read of any length gives nothing and stays, and is remembered. -/
theorem read_of_atEnd (count : Nat) : cursor.read count = ("", cursor.record) := by
  have nothing := (atEnd_iff cursor).1 finished
  have left : cursor.left = 0 := by rw [← length_ahead, nothing, List.length_nil]
  apply Prod.ext
  · rw [← String.toList_inj, toList_read, nothing, List.take_nil]
    rfl
  · simp only [read, left, Nat.min_zero, consume, Int.natCast_zero, Int.add_zero]
    rfl

theorem readRun_of_atEnd (predicate : Predicate σ) (wanted : Bool) (state : σ) :
    cursor.readRun predicate wanted state = ⟨"", state, cursor⟩ := by
  rw [readRun_eq_reach, (atEnd_iff cursor).1 finished]
  rfl

end AtEnd

/-! ## Agreement -/

/-- What is seen of a cursor, before and behind a step, agrees with the outcomes of operations.
They are known for the operations that are admitted. -/
structure Agreement (cursor : Cursor) (state : σ)
    (outcome : Operation σ → Machine.Checked (Outcome σ)) (admits : Operation σ → Prop) :
    Prop where
  /-- A step gives the character that was seen to be next. -/
  next_eq : outcome .next = .ok ⟨.char cursor.view.peek, state, cursor.skip⟩
  atEnd_iff_peek : cursor.view.atEnd = true ↔ cursor.view.peek = none
  atEnd_iff_remaining : cursor.view.atEnd = true ↔ cursor.view.remaining = ""
  /-- If a character is next, the text that remains begins with it, and goes on with what remains
  behind the step.  The step comes to rest on the character. -/
  behind_step : ∀ char, cursor.view.peek = some char →
    cursor.view.remaining = String.singleton char ++ cursor.skip.view.remaining ∧
      cursor.skip.view.value = some char
  check_eq : cursor.view.atEnd = true → ∀ name, admits (.check name) →
    outcome (.check name) = .ok ⟨.truth false, state, cursor⟩
  acceptAny_eq : cursor.view.atEnd = true → ∀ candidates, admits (.acceptAny candidates) →
    outcome (.acceptAny candidates) = .ok ⟨.truth false, state, cursor⟩
  read_eq : cursor.view.atEnd = true → ∀ count, admits (.read count) →
    outcome (.read count) =
      .ok ⟨.text "", state, { cursor with history := cursor.history.push cursor.position }⟩
  readWhile_eq : cursor.view.atEnd = true → ∀ predicate, admits (.readWhile predicate) →
    outcome (.readWhile predicate) = .ok ⟨.text "", state, cursor⟩
  readUntil_eq : cursor.view.atEnd = true → ∀ predicate, admits (.readUntil predicate) →
    outcome (.readUntil predicate) = .ok ⟨.text "", state, cursor⟩

/-- Whatever carries operations out as they are carried out on a cursor agrees with what is seen of
it. -/
theorem agreement_of_outcome_eq {state : σ}
    {outcome : Operation σ → Machine.Checked (Outcome σ)} {admits : Operation σ → Prop}
    (next : admits .next)
    (same : ∀ {operation}, admits operation →
      outcome operation = .ok (cursor.perform state operation)) :
    Agreement cursor state outcome admits where
  next_eq := by
    rw [same next, perform, next_fst]
    rfl
  atEnd_iff_peek := atEnd_iff_peek? cursor
  atEnd_iff_remaining := atEnd_iff_remaining cursor
  behind_step := by
    intro char some
    exact ⟨remaining_of_peek? some, (next_fst cursor).trans some⟩
  check_eq := by
    intro finished name admitted
    rw [same admitted, perform, check_of_atEnd finished]
  acceptAny_eq := by
    intro finished candidates admitted
    rw [same admitted, perform, acceptAny_of_atEnd finished]
  read_eq := by
    intro finished count admitted
    rw [same admitted, perform, read_of_atEnd finished]
    rfl
  readWhile_eq := by
    intro finished predicate admitted
    rw [same admitted, perform, readWhile, readRun_of_atEnd finished]
    rfl
  readUntil_eq := by
    intro finished predicate admitted
    rw [same admitted, perform, readUntil, readRun_of_atEnd finished]
    rfl

/-- What is seen of a cursor agrees with the outcomes of operations, at any position.  A machine
that holds the cursor sees the same of it, and the outcomes there agree too; and it holds whatever
operations lead to. -/
theorem observers_agree (cursor : Cursor) (state : σ) :
    Agreement cursor state (fun operation => .ok (cursor.perform state operation))
        (fun _ => True) ∧
      (Machine.Holds cursor →
        Machine.view cursor = .ok cursor.view ∧
          Machine.view cursor.skip = .ok cursor.skip.view ∧
          Agreement cursor state (Machine.perform cursor state) Machine.Fits) ∧
      ∀ (text : String) (config : Config) (first : σ) (earlier : List (Operation σ)),
        Machine.Stored text →
        (∀ name literal, config.registry.classify? name = some (.literal literal) →
          Machine.Stored literal) →
        (∀ operation ∈ earlier, Machine.Fits operation) →
        Machine.Holds ((ofString text config).after first earlier).1 := by
  refine ⟨agreement_of_outcome_eq trivial fun _ => rfl, fun holds => ⟨?_, ?_, ?_⟩, ?_⟩
  · exact Machine.view_eq holds
  · exact Machine.view_eq holds.skip
  · exact agreement_of_outcome_eq trivial fun fits => Machine.perform_eq holds state fits
  · intro text config first earlier textStored literalsStored fits
    exact (Machine.holds_ofString textStored literalsStored).after
      (Machine.inWords_ofString text config) first fits

/-- A cursor at the greatest position, from which the next one does not fit a word, and one at the
least. -/
theorem observers_agree_extreme :
    (Machine.Stored "é" ∧
        ∀ operation ∈ [Operation.jump (2 ^ 63 - 1), .skip, .jump (-2 ^ 63)],
          Machine.Fits (operation : Operation Unit)) ∧
      (Machine.Holds ((ofString "é").jump (2 ^ 63 - 1)) ∧
        Agreement ((ofString "é").jump (2 ^ 63 - 1)) ()
          (Machine.perform ((ofString "é").jump (2 ^ 63 - 1)) ()) Machine.Fits) ∧
      Agreement (((ofString "é").jump (2 ^ 63 - 1)).jump (-2 ^ 63)) ()
        (Machine.perform (((ofString "é").jump (2 ^ 63 - 1)).jump (-2 ^ 63)) ()) Machine.Fits := by
  have stored : Machine.Stored "é" := by decide
  have fits : ∀ operation ∈ [Operation.jump (2 ^ 63 - 1), .skip, .jump (-2 ^ 63)],
      Machine.Fits (operation : Operation Unit) := by
    simp [Machine.Fits, Machine.FitsSigned]
  obtain ⟨-, greatest, reached⟩ := observers_agree ((ofString "é").jump (2 ^ 63 - 1)) ()
  obtain ⟨-, least, -⟩ :=
    observers_agree (((ofString "é").jump (2 ^ 63 - 1)).jump (-2 ^ 63)) ()
  have held := reached "é" {} () [.jump (2 ^ 63 - 1)] stored Machine.stored_literal_standard
    fun operation member => fits operation (List.mem_of_mem_take (i := 1) member)
  have heldBehind := reached "é" {} () [.jump (2 ^ 63 - 1), .skip, .jump (-2 ^ 63)] stored
    Machine.stored_literal_standard fits
  exact ⟨⟨stored, fits⟩, ⟨held, (greatest held).2.2⟩, (least heldBehind).2.2⟩

end TextCursor.Cursor
