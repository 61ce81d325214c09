import TextCursor.Proofs.Cursor.Ahead

/-!
# How far a run reaches

A run of characters is read place by place, but what a predicate answers depends on the
characters ahead alone (`Predicate.judge`), so the length of the run can be told from their
list (`Predicate.reach`), and so can the outcome of reading it (`readRun_eq_reach`), whatever
the tests of the predicate remember.  If the predicate looks at single characters and remembers
nothing, the run is the beginning of the list on which it holds (`readRun_eq`).
-/

namespace TextCursor

variable {σ : Type}

namespace Predicate

/-- What a predicate answers about the first of several characters, a number of others being
accepted before it, and the state of its test then. -/
def judge (registry : Registry) (predicate : Predicate σ) (state : σ) (run : Nat) :
    List Char → Bool × σ
  | [] => (false, state)
  | char :: chars =>
      match predicate with
      | .test ask => ask state char run
      | .pattern rule => (rule.searchChar char, state)
      | .name text => ((registry.covers? text (char :: chars)).isSome, state)

/-- The number of characters accepted up to the first one of which the predicate does not have the
wanted truth value, and the state of its test after the last question. -/
def reach (registry : Registry) (predicate : Predicate σ) (wanted : Bool) :
    List Char → Nat → σ → Nat × σ
  | [], run, state => (run, state)
  | char :: chars, run, state =>
      let (holds, state) := predicate.judge registry state run (char :: chars)
      if holds == wanted then predicate.reach registry wanted chars (run + 1) state
      else (run, state)

section Reach

variable {registry : Registry} {predicate : Predicate σ} {wanted : Bool} {char : Char}
  {chars : List Char} {run : Nat} {state : σ}

theorem reach_of_eq
    (answer : (predicate.judge registry state run (char :: chars)).1 = wanted) :
    predicate.reach registry wanted (char :: chars) run state =
      predicate.reach registry wanted chars (run + 1)
        (predicate.judge registry state run (char :: chars)).2 := by
  rw [reach]
  exact if_pos (beq_iff_eq.2 answer)

theorem reach_of_ne
    (answer : (predicate.judge registry state run (char :: chars)).1 ≠ wanted) :
    predicate.reach registry wanted (char :: chars) run state =
      (run, (predicate.judge registry state run (char :: chars)).2) := by
  rw [reach]
  exact if_neg (mt beq_iff_eq.1 answer)

end Reach

end Predicate

namespace Cursor

theorem satisfies_eq_judge {cursor : Cursor} {place : Nat} {char : Char} {chars : List Char}
    (here : cursor.source.text.toList.drop place = char :: chars) (predicate : Predicate σ)
    (state : σ) (run : Nat) :
    cursor.satisfies predicate state place run =
      predicate.judge cursor.registry state run (char :: chars) := by
  have found : cursor.source.charAt? place = some char := by
    rw [Source.charAt?_eq, if_pos (Int.natCast_nonneg _), Int.toNat_natCast, ← List.head?_drop,
      here]
    rfl
  cases predicate <;> simp only [satisfies, found, matchLength?_eq, here, Predicate.judge]

theorem extent_eq_reach (cursor : Cursor) (predicate : Predicate σ) (wanted : Bool)
    (start : Nat) :
    ∀ (ahead run : Nat) (state : σ),
      start + run + ahead = cursor.source.text.toList.length →
      cursor.extent predicate wanted start ahead run state =
        predicate.reach cursor.registry wanted (cursor.source.text.toList.drop (start + run)) run
          state := by
  intro ahead
  induction ahead with
  | zero =>
      intro run state reached
      have finished := List.drop_eq_nil_of_le (Nat.le_of_eq reached.symm)
      rw [Nat.add_zero] at finished
      rw [extent, finished]
      rfl
  | succ ahead ih =>
      intro run state reached
      have inside : start + run < cursor.source.text.toList.length := by omega
      have here := List.drop_eq_getElem_cons inside
      rw [extent, satisfies_eq_judge here, here, Predicate.reach]
      simp only
      split
      · exact ih (run + 1) _ (by omega)
      · rfl

/-- What is read is told from the characters ahead. -/
theorem readRun_eq_reach (cursor : Cursor) (predicate : Predicate σ) (wanted : Bool) (state : σ) :
    cursor.readRun predicate wanted state =
      let (run, state) := predicate.reach cursor.registry wanted cursor.ahead 0 state
      ⟨String.ofList (cursor.ahead.take run), state, cursor.pass run⟩ := by
  cases found : cursor.head? with
  | none =>
      rw [ahead_of_head?_eq_none found, readRun, found]
      rfl
  | some head =>
      have inside := inside_of_head? found
      have size := left_of_head? found
      rw [Source.length_eq] at inside size
      have reached := extent_eq_reach cursor predicate wanted head cursor.left 0 state (by omega)
      have bound := extent_le cursor predicate wanted head cursor.left 0 state
      rw [Nat.add_zero, ← ahead_of_head? found] at reached
      rw [Nat.zero_add, reached] at bound
      have cut := congrArg String.ofList (toList_slice_head found bound)
      rw [String.ofList_toList] at cut
      rw [readRun, found]
      simp only [reached, cut, pass]

/-! ## Predicates on single characters -/

/-- A predicate looks at nothing but the character it is asked about. -/
def Decides (cursor : Cursor) (predicate : Predicate σ) (holds : Char → Bool) : Prop :=
  ∀ state place run char, cursor.source.text.toList[place]? = some char →
    cursor.satisfies predicate state place run = (holds char, state)

theorem decides_of_judge {cursor : Cursor} {predicate : Predicate σ} {holds : Char → Bool}
    (judges : ∀ state run char chars,
      predicate.judge cursor.registry state run (char :: chars) = (holds char, state)) :
    cursor.Decides predicate holds := by
  intro state place run char found
  obtain ⟨inside, rfl⟩ := List.getElem?_eq_some_iff.1 found
  rw [satisfies_eq_judge (List.drop_eq_getElem_cons inside), judges]

theorem decides_ofChar (cursor : Cursor) (ask : Char → Bool) :
    cursor.Decides (.ofChar ask : Predicate σ) ask :=
  decides_of_judge fun _ _ _ _ => rfl

theorem decides_pattern (cursor : Cursor) (rule : Pattern) :
    cursor.Decides (.pattern rule : Predicate σ) rule.searchChar :=
  decides_of_judge fun _ _ _ _ => rfl

theorem decides_name_of_pattern {cursor : Cursor} {name : String} {rule : Pattern}
    (registered : cursor.registry.classify? name = some (.pattern rule)) :
    cursor.Decides (.name name : Predicate σ) rule.searchChar := by
  apply decides_of_judge
  intro state run char chars
  simp only [Predicate.judge, Registry.covers?, registered]
  cases rule.searchChar char <;> rfl

theorem reach_of_decides {cursor : Cursor} {predicate : Predicate σ} {holds : Char → Bool}
    (decides : cursor.Decides predicate holds) (wanted : Bool) {chars : List Char} {place : Nat}
    (here : cursor.source.text.toList.drop place = chars) (run : Nat) (state : σ) :
    predicate.reach cursor.registry wanted chars run state =
      (run + (chars.takeWhile (holds · == wanted)).length, state) := by
  induction chars generalizing place run with
  | nil => rfl
  | cons char chars ih =>
      have found : cursor.source.text.toList[place]? = some char := by
        rw [← List.head?_drop, here]
        rfl
      have rest : cursor.source.text.toList.drop (place + 1) = chars := by
        rw [← List.tail_drop, here]
        rfl
      have judged := satisfies_eq_judge here predicate state run
      rw [decides state place run char found] at judged
      rw [Predicate.reach, ← judged, List.takeWhile_cons]
      simp only
      split
      · rw [ih rest, List.length_cons, Nat.add_right_comm, Nat.add_assoc]
      · rfl

/-- A run reaches over the first characters ahead that are as wanted. -/
theorem readRun_eq {cursor : Cursor} {predicate : Predicate σ} {holds : Char → Bool}
    (decides : cursor.Decides predicate holds) (wanted : Bool) (state : σ) :
    cursor.readRun predicate wanted state =
      ⟨String.ofList (cursor.ahead.takeWhile (holds · == wanted)), state,
        cursor.pass (cursor.ahead.takeWhile (holds · == wanted)).length⟩ := by
  have here : ∃ place, cursor.source.text.toList.drop place = cursor.ahead := by
    rw [ahead_eq]
    split
    · exact ⟨_, rfl⟩
    · exact ⟨_, List.drop_length⟩
  obtain ⟨place, here⟩ := here
  rw [readRun_eq_reach, reach_of_decides decides wanted here, Nat.zero_add]
  simp only
  rw [← List.prefix_iff_eq_take.1 (List.takeWhile_prefix _)]

theorem takeWhile_eq {cursor : Cursor} {predicate : Predicate Unit} {holds : Char → Bool}
    (decides : cursor.Decides predicate holds) :
    cursor.takeWhile predicate =
      (String.ofList (cursor.ahead.takeWhile holds),
        cursor.pass (cursor.ahead.takeWhile holds).length) := by
  rw [takeWhile, readWhile, readRun_eq decides]
  simp only [beq_true]

theorem takeUntil_eq {cursor : Cursor} {predicate : Predicate Unit} {holds : Char → Bool}
    (decides : cursor.Decides predicate holds) :
    cursor.takeUntil predicate =
      (String.ofList (cursor.ahead.takeWhile fun char => !holds char),
        cursor.pass (cursor.ahead.takeWhile fun char => !holds char).length) := by
  rw [takeUntil, readUntil, readRun_eq decides]
  simp only [beq_false]

end Cursor

end TextCursor
