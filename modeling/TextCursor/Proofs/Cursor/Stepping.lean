import TextCursor.Proofs.Cursor.ClassSpan
import TextCursor.Proofs.Cursor.Consumption
import TextCursor.Proofs.Cursor.StepsBack

/-!
# At once and one by one

A run of a name can be read at once, or its characters one by one, by accepting the name until it
is refused (`acceptEach`).  The run looks further and further ahead and moves once; the steps look
at the next character only and move every time.  If a name covers single characters, both go over
the characters ahead that it covers (`readWhile_name_eq`, `acceptEach_eq`), so they read the same
and come to the same place.  They differ in what they remember: the run remembers where it began,
and the steps where each of them did (`readWhile_agrees_with_acceptEach`).
-/

namespace TextCursor

namespace Cursor

variable {σ : Type} {cursor later : Cursor} {name : String}

/-! ## Accepting a name until it is refused -/

/-- What comes of many steps: the text that each of them consumes, and the cursor behind them. -/
structure Steps where
  texts : List String
  cursor : Cursor

/-- Accept a name over and over until it is refused. -/
def acceptEach (cursor : Cursor) (name : String) : Steps :=
  match _found : cursor.accept name with
  | (true, later) =>
      let others := later.acceptEach name
      ⟨cursor.matchedText [name] :: others.texts, others.cursor⟩
  | (false, later) => ⟨[], later⟩
termination_by cursor.left
decreasing_by
  have accepted : (cursor.acceptAny [name]).1 = true := congrArg Prod.fst _found
  obtain ⟨count, positive, available, moved⟩ := acceptAny_eq_true accepted
  have same : later = cursor.consume count := (congrArg Prod.snd _found).symm.trans moved
  have some : 0 < cursor.left := Nat.lt_of_lt_of_le positive available
  rw [same, ← length_ahead, ahead_consume some, List.length_drop, length_ahead]
  exact Nat.sub_lt some positive

theorem acceptEach_of_accepted (accepted : cursor.accept name = (true, later)) :
    cursor.acceptEach name =
      ⟨cursor.matchedText [name] :: (later.acceptEach name).texts,
        (later.acceptEach name).cursor⟩ := by
  rw [acceptEach]
  split <;> rename_i found <;> cases accepted.symm.trans found
  rfl

theorem acceptEach_of_refused (refused : cursor.accept name = (false, later)) :
    cursor.acceptEach name = ⟨[], later⟩ := by
  rw [acceptEach]
  split <;> rename_i found <;> cases refused.symm.trans found
  rfl

/-- Behind the steps the name is refused. -/
theorem accept_acceptEach (cursor : Cursor) (name : String) :
    (cursor.acceptEach name).cursor.accept name = (false, (cursor.acceptEach name).cursor) := by
  fun_induction acceptEach cursor name with
  | case1 cursor later accepted others ih => exact ih
  | case2 cursor later refused =>
      have same : later = cursor :=
        (congrArg Prod.snd refused).symm.trans (acceptAny_eq_false (congrArg Prod.fst refused))
      rw [same] at refused
      rw [same]
      exact refused

/-! ## Steps over single characters -/

/-- The positions from which a number of steps begin, each one place behind the other. -/
def stepPositions (start : Int) (count : Nat) : List Int :=
  (List.range count).map fun passed : Nat => start + passed

theorem stepPositions_succ (start : Int) (count : Nat) :
    stepPositions start (count + 1) = stepPositions start count ++ [start + count] := by
  rw [stepPositions, List.range_succ, List.map_append]
  rfl

theorem iterate_consume_one (cursor : Cursor) (count : Nat) :
    (consume · 1)^[count] cursor =
      { cursor with
        position := cursor.position + count
        history := cursor.history.pushAll (stepPositions cursor.position count) } := by
  induction count with
  | zero =>
      rw [Function.iterate_zero_apply, Int.natCast_zero, Int.add_zero]
      rfl
  | succ count ih =>
      have pushed : cursor.history.pushAll (stepPositions cursor.position (count + 1)) =
          (cursor.history.pushAll (stepPositions cursor.position count)).push
            (cursor.position + count) := by
        rw [stepPositions_succ, BoundedStack.pushAll, List.foldl_append]
        rfl
      rw [Function.iterate_succ_apply', ih, pushed, Int.natCast_succ, ← Int.add_assoc]
      rfl

/-- Where there was room for all of them, as many steps back lead to where the steps began. -/
theorem position_iterate_undo_iterate_consume (cursor : Cursor) {count : Nat}
    (room : count ≤ cursor.history.capacity) :
    (undo^[count] ((consume · 1)^[count] cursor)).position = cursor.position := by
  rw [iterate_consume_one]
  cases count with
  | zero => exact Int.add_zero _
  | succ count =>
      have size : (stepPositions cursor.position (count + 1)).length = count + 1 := by
        rw [stepPositions, List.length_map, List.length_range]
      have first : (stepPositions cursor.position (count + 1))[0]? = some cursor.position := by
        simp [stepPositions, List.range_succ_eq_map]
      apply position_iterate_undo
      rw [BoundedStack.entries_pushAll, List.getElem?_take_of_lt room,
        List.getElem?_append_left (by rw [List.length_reverse, size]; exact Nat.lt_succ_self _),
        List.getElem?_reverse (by rw [size]; exact Nat.lt_succ_self _), size, ← first]
      congr 1
      omega

/-- Where a name fits, the text that it matches is as much of the text ahead as it covers. -/
theorem toList_matchedText {count : Nat}
    (covered : cursor.registry.covers? name cursor.ahead = some count) :
    (cursor.matchedText [name]).toList = cursor.ahead.take count := by
  have fits : cursor.check name = true := by
    rw [check, probe?_eq, covered]
    rfl
  rw [matchedText, List.find?_cons_of_pos fits]
  exact toList_spelling covered

/-- The characters ahead that the registry accepts under a name, up to the first that it does
not. -/
def coveredRun (cursor : Cursor) (name : String) : List Char :=
  cursor.ahead.takeWhile fun char => cursor.registry.accepts name (String.singleton char)

/-- A name that covers single characters is accepted along the characters ahead that it covers. -/
theorem acceptEach_eq (single : cursor.registry.CoversSingly name) :
    cursor.acceptEach name =
      ⟨(cursor.coveredRun name).map String.singleton,
        (consume · 1)^[(cursor.coveredRun name).length] cursor⟩ := by
  rw [coveredRun]
  induction ahead : cursor.ahead generalizing cursor with
  | nil =>
      apply acceptEach_of_refused
      apply accept_of_not_covers
      rw [ahead, Registry.covers?_nil]
  | cons char chars ih =>
      have covered := single.covers?_cons char chars
      rw [← ahead] at covered
      cases fits : cursor.registry.accepts name (String.singleton char) with
      | false =>
          rw [fits, if_neg Bool.false_ne_true] at covered
          rw [List.takeWhile_cons, fits, if_neg Bool.false_ne_true]
          exact acceptEach_of_refused (accept_of_not_covers covered)
      | true =>
          rw [fits, if_pos rfl] at covered
          have taken : cursor.matchedText [name] = String.singleton char := by
            rw [← String.toList_inj, toList_matchedText covered, ahead, String.toList_singleton]
            rfl
          have others := @ih (cursor.consume 1) single (ahead_consume_one ahead)
          rw [List.takeWhile_cons, fits, if_pos rfl,
            acceptEach_of_accepted (accept_of_covers covered), others, taken]
          rfl

/-- A name that covers single characters is read along the characters ahead that it covers. -/
theorem readWhile_name_eq (single : cursor.registry.CoversSingly name) (state : σ) :
    cursor.readWhile (.name name) state =
      ⟨String.ofList (cursor.coveredRun name), state,
        cursor.pass (cursor.coveredRun name).length⟩ := by
  have decides : cursor.Decides (.name name : Predicate σ) fun char =>
      cursor.registry.accepts name (String.singleton char) := by
    apply decides_of_judge
    intro state run char chars
    rw [Predicate.judge, single.covers?_cons]
    cases cursor.registry.accepts name (String.singleton char) <;> rfl
  rw [readWhile, readRun_eq decides, coveredRun]
  simp only [beq_true]

/-- To read along a name that covers single characters is to accept it until it is refused: the
texts are the same, and so is the place behind them.  The run remembers the position before it, if
it goes anywhere, and the steps remember the positions before all of them.  One step back behind
the run, and as many as there were behind the steps if there was room for them, lead to where both
began. -/
theorem readWhile_agrees_with_acceptEach (cursor : Cursor) (name : String)
    (single : cursor.registry.CoversSingly name) (state : σ) :
    let reading := cursor.readWhile (.name name) state
    let steps := cursor.acceptEach name
    let count := steps.texts.length
    steps.cursor.accept name = (false, steps.cursor) ∧
      reading.text = String.join steps.texts ∧ (∀ text ∈ steps.texts, text.length = 1) ∧
      reading.cursor =
        { cursor with
          position := cursor.position + count
          history := if count = 0 then cursor.history
            else cursor.history.push cursor.position } ∧
      steps.cursor =
        { cursor with
          position := cursor.position + count
          history := cursor.history.pushAll (stepPositions cursor.position count) } ∧
      (1 ≤ count → count ≤ cursor.history.capacity →
        reading.cursor.undo.position = cursor.position ∧
          (undo^[count] steps.cursor).position = cursor.position) := by
  intro reading steps count
  have read : reading = _ := readWhile_name_eq single state
  have stepped : steps = _ := acceptEach_eq single
  have size : count = (cursor.coveredRun name).length := by
    rw [show count = steps.texts.length from rfl, stepped, List.length_map]
  rw [← size] at read stepped
  refine ⟨accept_acceptEach cursor name, ?_, ?_, ?_, ?_, ?_⟩
  · rw [read, stepped, ← String.toList_inj, String.toList_join, List.flatMap_map]
    simp
  · rw [stepped]
    simp
  · rw [read, pass_eq]
  · rw [stepped, iterate_consume_one]
  · intro some room
    constructor
    · rw [read, pass, if_neg (Nat.ne_of_gt some)]
      exact position_undo (cursor.history.head?_entries_push _ (Nat.le_trans some room))
    · rw [stepped]
      exact position_iterate_undo_iterate_consume cursor room

/-- A cursor behind the first character of a text, with a history that is full. -/
def beforeDigits : Cursor :=
  { ofString "é12b3" ⟨2, Registry.standard⟩ with
    position := 0
    history := BoundedStack.ofList [4, 1] 2 }

/-- Two digits take all the room there is. -/
theorem readWhile_agrees_with_acceptEach_digits :
    beforeDigits.registry.CoversSingly "digit" ∧
      (beforeDigits.acceptEach "digit").texts.length = 2 ∧
      (beforeDigits.readWhile (.name "digit") ()).text =
        String.join (beforeDigits.acceptEach "digit").texts ∧
      (beforeDigits.readWhile (.name "digit") ()).cursor.undo.position = 0 ∧
      (undo^[2] (beforeDigits.acceptEach "digit").cursor).position = 0 := by
  have registered :
      beforeDigits.registry.classify? "digit" = some (.pattern CharClass.digitPattern) :=
    (Registry.classify?_standard_name .digit).trans (congrArg some CharClass.matcher_digit)
  have single : beforeDigits.registry.CoversSingly "digit" := .inl ⟨_, registered⟩
  have count : (beforeDigits.acceptEach "digit").texts.length = 2 := by
    simp only [acceptEach_eq single, List.length_map, coveredRun,
      Registry.accepts_of_pattern registered, CharClass.searchChar_digitPattern]
    decide
  obtain ⟨-, text, -, -, -, back⟩ :=
    readWhile_agrees_with_acceptEach beforeDigits "digit" single ()
  rw [count] at back
  exact ⟨single, count, text, back (by decide) (by decide)⟩

end Cursor

end TextCursor
