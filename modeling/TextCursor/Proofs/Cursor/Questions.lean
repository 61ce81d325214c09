import TextCursor.Proofs.Cursor.Runs

/-!
# The questions put to a test

A test may remember what it is asked, so which questions it gets, and in which order, can be told
from outside.  A test that writes down its questions shows them (`noting`): while a run is read it
is asked about the characters ahead, one after another and each once, up to the first that it
refuses or the end of the text (`Interview`).
-/

namespace TextCursor

variable {σ : Type}

/-- A question put to a test: the state of the test, a character, and the number of characters
accepted before it. -/
structure Question (σ : Type) where
  state : σ
  char : Char
  run : Nat

namespace Predicate

/-- The test that writes down its questions. -/
def noting (ask : σ → Char → Nat → Bool × σ) :
    σ × List (Question σ) → Char → Nat → Bool × (σ × List (Question σ)) :=
  fun (state, noted) char run =>
    ((ask state char run).1, (ask state char run).2, noted ++ [⟨state, char, run⟩])

/-- The test that accepts what the other one refuses. -/
def negated (ask : σ → Char → Nat → Bool × σ) : σ → Char → Nat → Bool × σ :=
  fun state char run => (!(ask state char run).1, (ask state char run).2)

end Predicate

open Predicate (noting negated)

section Ask

variable (ask : σ → Char → Nat → Bool × σ)

/-- What a test answers to a question. -/
def Question.answer (question : Question σ) : Bool :=
  (ask question.state question.char question.run).1

/-- The questions about several characters, each with the number of those accepted before it.
The state of the test goes from one question to the next. -/
def questions : σ → List (Char × Nat) → List (Question σ)
  | _, [] => []
  | state, (char, run) :: others =>
      ⟨state, char, run⟩ :: questions (ask state char run).2 others

/-- The state of a test that was asked about several characters. -/
def stateAfter (state : σ) (asked : List (Char × Nat)) : σ :=
  asked.foldl (fun state (char, run) => (ask state char run).2) state

/-- A test is asked about characters, of which it gives the wanted answer for a number, up to the
first for which it does not. -/
structure Interview (wanted : Bool) (run : Nat) (state : σ) (chars : List Char)
    (asked : List (Question σ)) (accepted : Nat) (last : σ) : Prop where
  accepted_le : accepted ≤ chars.length
  /-- There is a question for each accepted character, and one for the next if there is one. -/
  asked_eq : asked = questions ask state ((chars.take (accepted + 1)).zipIdx run)
  last_eq : last = stateAfter ask state ((chars.take (accepted + 1)).zipIdx run)
  accepts : ∀ question ∈ asked.take accepted, question.answer ask = wanted
  refuses : ∀ question ∈ asked.drop accepted, question.answer ask ≠ wanted

end Ask

namespace Interview

variable {ask : σ → Char → Nat → Bool × σ} {wanted : Bool} {run : Nat} {state : σ}
  {char : Char} {chars : List Char}

theorem nil : Interview ask wanted run state [] [] 0 state := by
  constructor <;> simp [questions, stateAfter]

theorem refused (answer : (ask state char run).1 ≠ wanted) :
    Interview ask wanted run state (char :: chars) [⟨state, char, run⟩] 0
      (ask state char run).2 where
  accepted_le := Nat.zero_le _
  asked_eq := rfl
  last_eq := rfl
  accepts := by simp
  refuses := by simpa [Question.answer] using answer

theorem accepted (answer : (ask state char run).1 = wanted) {asked : List (Question σ)}
    {count : Nat} {last : σ}
    (others : Interview ask wanted (run + 1) (ask state char run).2 chars asked count last) :
    Interview ask wanted run state (char :: chars) (⟨state, char, run⟩ :: asked) (count + 1)
      last where
  accepted_le := Nat.succ_le_succ others.accepted_le
  asked_eq := congrArg (Question.mk state char run :: ·) others.asked_eq
  last_eq := others.last_eq
  accepts := List.forall_mem_cons.2 ⟨answer, others.accepts⟩
  refuses := others.refuses

end Interview

section Reach

variable {registry : Registry} {ask : σ → Char → Nat → Bool × σ} {wanted : Bool} {char : Char}
  {chars : List Char} {run : Nat} {state : σ}

theorem reach_test_of_eq (answer : (ask state char run).1 = wanted) :
    (Predicate.test ask).reach registry wanted (char :: chars) run state =
      (Predicate.test ask).reach registry wanted chars (run + 1) (ask state char run).2 :=
  Predicate.reach_of_eq answer

theorem reach_test_of_ne (answer : (ask state char run).1 ≠ wanted) :
    (Predicate.test ask).reach registry wanted (char :: chars) run state =
      (run, (ask state char run).2) :=
  Predicate.reach_of_ne answer

end Reach

/-- What is written down while a run is read is an interview, and to write it down changes neither
the run nor the state of the test. -/
theorem exists_interview (registry : Registry) (ask : σ → Char → Nat → Bool × σ) (wanted : Bool)
    (chars : List Char) (run : Nat) (state : σ) (noted : List (Question σ)) :
    ∃ asked accepted last, Interview ask wanted run state chars asked accepted last ∧
      (Predicate.test ask).reach registry wanted chars run state = (run + accepted, last) ∧
      (Predicate.test (noting ask)).reach registry wanted chars run (state, noted) =
        (run + accepted, last, noted ++ asked) := by
  induction chars generalizing run state noted with
  | nil => exact ⟨[], 0, state, .nil, rfl, by rw [List.append_nil]; rfl⟩
  | cons char chars ih =>
      by_cases answer : (ask state char run).1 = wanted
      · obtain ⟨asked, accepted, last, others, reached, written⟩ :=
          ih (run + 1) (ask state char run).2 (noted ++ [⟨state, char, run⟩])
        refine ⟨_, _, _, others.accepted answer, ?_, ?_⟩
        · rw [reach_test_of_eq answer, reached, Nat.add_right_comm, Nat.add_assoc]
        · have noting_answer : (noting ask (state, noted) char run).1 = wanted := answer
          rw [reach_test_of_eq noting_answer, Nat.add_comm accepted, ← Nat.add_assoc,
            List.append_cons]
          exact written
      · have noting_answer : (noting ask (state, noted) char run).1 ≠ wanted := answer
        exact ⟨_, _, _, .refused answer, reach_test_of_ne answer, reach_test_of_ne noting_answer⟩

namespace Cursor

/-- To read up to what a test accepts is to read for as long as the negated test does. -/
theorem readUntil_eq_readWhile_negated (cursor : Cursor) (ask : σ → Char → Nat → Bool × σ)
    (state : σ) :
    cursor.readUntil (.test ask) state = cursor.readWhile (.test (negated ask)) state := by
  have same (chars : List Char) (run : Nat) (state : σ) :
      (Predicate.test ask).reach cursor.registry false chars run state =
        (Predicate.test (negated ask)).reach cursor.registry true chars run state := by
    induction chars generalizing run state with
    | nil => rfl
    | cons char chars ih =>
        cases answer : (ask state char run).1 with
        | false =>
            have accepts : (negated ask state char run).1 = true := congrArg (!·) answer
            rw [reach_test_of_eq answer, reach_test_of_eq accepts]
            exact ih _ _
        | true =>
            have refuses : (negated ask state char run).1 = false := congrArg (!·) answer
            rw [reach_test_of_ne (ne_false_of_eq_true answer),
              reach_test_of_ne (ne_true_of_eq_false refuses)]
            rfl
  rw [readUntil, readWhile, readRun_eq_reach, readRun_eq_reach, same]

/-- While a run is read, its test is asked about the characters that remain, one after another,
and the run is what it accepts.  To read up to what a test accepts puts the same questions and
has the same outcome as to read along the negated test. -/
theorem interview_readWhile (cursor : Cursor) (ask : σ → Char → Nat → Bool × σ) (state : σ) :
    let reading := cursor.readWhile (.test ask) state
    let noted := cursor.readWhile (.test (noting ask)) (state, [])
    (∃ accepted,
        Interview ask true 0 state cursor.remaining.toList noted.state.2 accepted reading.state ∧
        reading.text = String.ofList (cursor.remaining.toList.take accepted) ∧
        reading.cursor =
          { cursor with
            position := cursor.position + accepted
            history :=
              if accepted = 0 then cursor.history else cursor.history.push cursor.position }) ∧
      (noted.text = reading.text ∧ noted.state.1 = reading.state ∧
        noted.cursor = reading.cursor) ∧
      cursor.readUntil (.test ask) state = cursor.readWhile (.test (negated ask)) state ∧
      cursor.readUntil (.test (noting ask)) (state, []) =
        cursor.readWhile (.test (noting (negated ask))) (state, []) := by
  intro reading noted
  obtain ⟨asked, accepted, last, interview, reached, written⟩ :=
    exists_interview cursor.registry ask true cursor.ahead 0 state []
  rw [Nat.zero_add] at reached written
  have plain : reading = _ := readRun_eq_reach cursor (.test ask) true state
  have logged : noted = _ := readRun_eq_reach cursor (.test (noting ask)) true (state, [])
  rw [reached] at plain
  rw [written] at logged
  rw [plain, logged]
  refine ⟨⟨accepted, interview, rfl, pass_eq cursor accepted⟩, ⟨rfl, rfl, rfl⟩, ?_, ?_⟩
  · exact readUntil_eq_readWhile_negated cursor ask state
  · exact readUntil_eq_readWhile_negated cursor (noting ask) (state, [])

end Cursor

end TextCursor
