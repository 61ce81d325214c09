import TextCursor.Calculator.Lexer
import TextCursor.Proofs.Cursor.Consumption
import TextCursor.Proofs.Json.Strings

/-!
# The rounds of the loops

A lexer reads a text in rounds, and so does the reader of a string.  A round of a lexer ends
further on than it began, even if a reader went back on the way (`Lexer.position_lt_round?`).  A
round of a string that does not end it passes an escape, which is two characters at least
(`Json.passesEscape_of_bodyRound`).  Rounds that take from the characters ahead cannot go on for
ever (`Rounds.spent`, `Rounds.exists_last`), so both loops come to an end, with what the lexer
finds and what the string is (`loops_end`).
-/

namespace TextCursor

/-! ## Loops -/

/-- A number of rounds, one after the other, lead from one state of a loop to another one.  A
loop stops in a state from which there is no further round. -/
inductive Rounds {α : Type} (again? : α → Option α) : Nat → α → α → Prop where
  | none (state : α) : Rounds again? 0 state state
  | round {count : Nat} {first second last : α} (found : again? first = some second)
      (others : Rounds again? count second last) : Rounds again? (count + 1) first last

/-- Each round from a state with a property leads to one with the property, and spends the cost
of a round. -/
def Spends {α : Type} (again? : α → Option α) (holds : α → Prop) (cost : Nat) (budget : α → Nat) :
    Prop :=
  ∀ {first second}, holds first → again? first = some second →
    holds second ∧ cost + budget second ≤ budget first

namespace Rounds

variable {α : Type} {again? : α → Option α} {holds : α → Prop} {cost : Nat} {budget : α → Nat}

/-- The rounds that are made are paid for. -/
theorem spent (spends : Spends again? holds cost budget) {count : Nat} {first last : α}
    (rounds : Rounds again? count first last) (start : holds first) :
    holds last ∧ cost * count + budget last ≤ budget first := by
  induction rounds with
  | none state => exact ⟨start, by rw [Nat.mul_zero, Nat.zero_add]⟩
  | round found others ih =>
      obtain ⟨next, once⟩ := spends start found
      obtain ⟨behind, paid⟩ := ih next
      rw [Nat.mul_succ]
      exact ⟨behind, by omega⟩

/-- A loop whose rounds cost something stops. -/
theorem exists_last (spends : Spends again? holds cost budget) (positive : 0 < cost) (first : α)
    (start : holds first) :
    ∃ count last, Rounds again? count first last ∧ again? last = Option.none := by
  induction size : budget first using Nat.strongRecOn generalizing first with
  | ind size ih =>
      cases found : again? first with
      | none => exact ⟨0, first, .none first, found⟩
      | some second =>
          obtain ⟨next, spent⟩ := spends start found
          obtain ⟨count, last, others, stops⟩ := ih (budget second) (by omega) second next rfl
          exact ⟨count + 1, last, .round found others, stops⟩

/-- What every round keeps is the same behind all of them. -/
theorem kept_eq {β : Type} {kept : α → β}
    (keeps : ∀ {first second}, again? first = some second → kept first = kept second)
    {count : Nat} {first last : α} (rounds : Rounds again? count first last) :
    kept first = kept last := by
  induction rounds with
  | none state => rfl
  | round found others ih => exact (keeps found).trans ih

end Rounds

/-! ## The loop of a lexer -/

namespace Lexer

variable {τ : Type} {lexer : Lexer τ} {cursor rest : Cursor} {findings : List (Finding τ)}

/-- One more round of a lexer, if there is one.  The state of its loop is what has come to light
so far, together with the cursor. -/
def again? (lexer : Lexer τ) (state : List (Finding τ) × Cursor) :
    Option (List (Finding τ) × Cursor) :=
  (lexer.round? state.2).map fun (findings, rest) => (state.1 ++ findings, rest)

/-- A round ends further on than it began. -/
theorem position_lt_round? (found : lexer.round? cursor = some (findings, rest)) :
    cursor.position < rest.position := by
  simp only [round?, Option.ite_none_left_eq_some, Option.some.injEq] at found
  obtain ⟨notDone, found⟩ := found
  have moves := lexer.roundFrom_moves (Cursor.left_pos_of_atEnd (Bool.not_eq_true _ ▸ notDone))
  rw [found] at moves
  exact Int.lt_of_le_of_lt (Cursor.follows_readRun cursor _ true ()).position_le moves.2

theorem scan_of_round? (found : lexer.round? cursor = some (findings, rest)) :
    lexer.scan cursor = findings ++ lexer.scan rest := by
  rw [scan]
  split
  · rename_i stopped
    cases stopped.symm.trans found
  · rename_i same
    cases same.symm.trans found
    rfl

theorem scan_of_none (stopped : lexer.round? cursor = none) :
    lexer.scan cursor = [.token (lexer.endToken ((skipBlanks cursor).position + 1))] := by
  rw [scan]
  split
  · rfl
  · rename_i found
    cases stopped.symm.trans found

/-- A round from the state of a loop is one from its cursor. -/
theorem again?_eq_some {first second : List (Finding τ) × Cursor}
    (found : lexer.again? first = some second) :
    ∃ findings, lexer.round? first.2 = some (findings, second.2) ∧
      second.1 = first.1 ++ findings := by
  obtain ⟨⟨findings, rest⟩, round, same⟩ := Option.map_eq_some_iff.1 found
  cases same
  exact ⟨findings, round, rfl⟩

/-- Each round leaves at least one character less ahead. -/
theorem spends_left (lexer : Lexer τ) :
    Spends lexer.again? (fun _ => True) 1 fun state => state.2.left := by
  intro first second _ found
  obtain ⟨findings, round, -⟩ := again?_eq_some found
  have fewer := lexer.left_round?_lt round
  exact ⟨trivial, Nat.add_comm 1 _ ▸ Nat.succ_le_of_lt fewer⟩

/-- What came to light together with what is still to come does not change in a round. -/
theorem scan_again? {first second : List (Finding τ) × Cursor}
    (found : lexer.again? first = some second) :
    first.1 ++ lexer.scan first.2 = second.1 ++ lexer.scan second.2 := by
  obtain ⟨findings, round, same⟩ := again?_eq_some found
  rw [scan_of_round? round, same, List.append_assoc]

theorem left_ofString (text : String) : (Cursor.ofString text).left = text.length := by
  rw [Cursor.left_eq _ (Int.le_refl _), ← String.length_toList]
  exact Source.length_eq _

/-- The loop of a lexer comes to an end with a text: each of its rounds ends further on than it
began, no run of them is longer than the text, and behind one of the runs the loop stops and has
brought to light all there is but the token for the end. -/
structure Ends (lexer : Lexer τ) (text : String) : Prop where
  moves : ∀ {first second}, lexer.again? first = some second →
    first.2.position < second.2.position
  count_le : ∀ {count state},
    Rounds lexer.again? count ([], Cursor.ofString text) state → count ≤ text.length
  stops : ∃ count found last, Rounds lexer.again? count ([], Cursor.ofString text) (found, last) ∧
    lexer.again? (found, last) = none ∧
    lexer.findings text =
      found ++ [.token (lexer.endToken ((skipBlanks last).position + 1))]

theorem ends (lexer : Lexer τ) (text : String) : lexer.Ends text := by
  constructor
  · intro first second found
    obtain ⟨findings, round, -⟩ := again?_eq_some found
    exact position_lt_round? round
  · intro count state rounds
    have paid := (rounds.spent lexer.spends_left trivial).2
    rw [left_ofString, Nat.one_mul] at paid
    exact Nat.le_of_add_right_le paid
  · obtain ⟨count, ⟨found, last⟩, rounds, stopped⟩ :=
      Rounds.exists_last lexer.spends_left Nat.one_pos ([], Cursor.ofString text) trivial
    have kept := rounds.kept_eq scan_again?
    rw [scan_of_none (Option.map_eq_none_iff.1 stopped), List.nil_append] at kept
    exact ⟨count, found, last, rounds, stopped, kept⟩

end Lexer

/-! ## The loop of a string -/

namespace Json

open Cursor

/-- One more round of reading a string, if there is one. -/
def bodyAgain? (state : String × Cursor) : Option (String × Cursor) :=
  (bodyRound state.1 state.2).getRight?

/-- A string is read round by round. -/
theorem readBody_of_inr {earlier value : String} {cursor rest : Cursor}
    (found : bodyRound earlier cursor = .inr (value, rest)) :
    readBody earlier cursor = readBody value rest := by
  rw [readBody, found]

theorem readBody_of_inl {earlier : String} {cursor : Cursor} {body : Body}
    (ended : bodyRound earlier cursor = .inl body) : readBody earlier cursor = body := by
  rw [readBody, ended]

/-- The later cursor is behind an escape that the earlier one had ahead, with a piece of a string
before it. -/
structure PassesEscape (later earlier : Cursor) (piece : String) (char : Char) : Prop where
  consumed : Consumed (piece ++ "\\" ++ String.singleton char) later earlier
  advanced : Advanced later earlier (piece.length + 2)

theorem PassesEscape.left_eq {later earlier : Cursor} {piece : String} {char : Char}
    (passes : PassesEscape later earlier piece char) :
    earlier.left = piece.length + 2 + later.left := by
  have lengths := congrArg List.length passes.consumed.ahead_eq
  rw [List.length_append, length_ahead, length_ahead, String.length_toList, String.length_append,
    String.length_append, String.length_singleton] at lengths
  exact lengths

theorem passesEscape_of_advanced {later earlier : Cursor} {run chars : List Char} {char : Char}
    (ahead : earlier.ahead = run ++ '\\' :: char :: chars)
    (advanced : Advanced later earlier (run.length + 2)) :
    PassesEscape later earlier (String.ofList run) char := by
  have available : run.length + 2 ≤ earlier.left := by
    rw [← length_ahead, ahead, List.length_append, List.length_cons, List.length_cons]
    omega
  have bounds := inside_of_left_pos (Nat.lt_of_lt_of_le (Nat.succ_pos _) available)
  have inside : Inside earlier := ⟨bounds.1, by omega⟩
  constructor
  · refine .of_advanced inside available ?_ advanced
    rw [ahead, List.take_length_add_append]
    simp
  · rw [String.length_ofList]
    exact advanced

/-- A round that does not end a string passes an escape. -/
theorem passesEscape_of_bodyRound {earlier value : String} {cursor rest : Cursor}
    (registry : cursor.registry = Registry.standard)
    (found : bodyRound earlier cursor = .inr (value, rest)) :
    ∃ piece char, PassesEscape rest cursor piece char ∧
      value = (earlier ++ piece).push (unescape char) := by
  -- There is an escape behind the piece, so the cursor is not outside the text.
  have some : 0 < cursor.left := Nat.zero_lt_of_lt (left_bodyRound_lt found)
  have quoting := quoting_of_registry registry (inside_of_left_pos some).1
  obtain ⟨char, chars, escape, passed, same⟩ := exists_escape_of_bodyRound quoting found
  obtain ⟨run, behind, piece⟩ := exists_pieceSplit quoting
  have ahead : cursor.ahead = run ++ '\\' :: char :: chars := by
    rw [piece.ahead_eq, ← piece.behind, escape]
  refine ⟨(readPiece cursor).1, char, ?_, same⟩
  rw [piece.text_eq]
  exact passesEscape_of_advanced ahead (passed.trans piece.advanced)

theorem bodyAgain?_eq_some {first second : String × Cursor} :
    bodyAgain? first = some second ↔ bodyRound first.1 first.2 = .inr second :=
  Sum.getRight?_eq_some_iff

/-- Each round of a string leaves at least two characters less ahead. -/
theorem spends_left_of_bodyAgain? :
    Spends bodyAgain? (fun state => state.2.registry = Registry.standard) 2
      fun state => state.2.left := by
  intro first second registry found
  obtain ⟨piece, char, passes, -⟩ :=
    passesEscape_of_bodyRound registry (bodyAgain?_eq_some.1 found)
  have fewer := passes.left_eq
  refine ⟨passes.advanced.registry_eq.trans registry, ?_⟩
  show 2 + second.2.left ≤ first.2.left
  omega

theorem readBody_bodyAgain? {first second : String × Cursor}
    (found : bodyAgain? first = some second) :
    readBody first.1 first.2 = readBody second.1 second.2 :=
  readBody_of_inr (bodyAgain?_eq_some.1 found)

/-- The loop of a string comes to an end: each of its rounds passes an escape and unescapes its
character, no run of them is longer than half of what is ahead, and behind one of the runs the
string ends. -/
structure BodyEnds (earlier : String) (cursor : Cursor) : Prop where
  passes : ∀ {count first second}, Rounds bodyAgain? count (earlier, cursor) first →
    bodyAgain? first = some second →
    ∃ piece char, PassesEscape second.2 first.2 piece char ∧
      second.1 = (first.1 ++ piece).push (unescape char)
  count_le : ∀ {count state}, Rounds bodyAgain? count (earlier, cursor) state →
    2 * count ≤ cursor.left
  stops : ∃ count value last, Rounds bodyAgain? count (earlier, cursor) (value, last) ∧
    bodyRound value last = .inl (readBody earlier cursor)

theorem bodyEnds {cursor : Cursor} (registry : cursor.registry = Registry.standard)
    (earlier : String) : BodyEnds earlier cursor := by
  constructor
  · intro count first second rounds found
    have same := (rounds.spent spends_left_of_bodyAgain? registry).1
    exact passesEscape_of_bodyRound same (bodyAgain?_eq_some.1 found)
  · intro count state rounds
    have paid := (rounds.spent spends_left_of_bodyAgain? registry).2
    exact Nat.le_of_add_right_le paid
  · obtain ⟨count, ⟨value, last⟩, rounds, stopped⟩ :=
      Rounds.exists_last spends_left_of_bodyAgain? Nat.two_pos (earlier, cursor) registry
    have kept := rounds.kept_eq readBody_bodyAgain?
    refine ⟨count, value, last, rounds, ?_⟩
    rw [kept]
    cases ended : bodyRound value last with
    | inl body => rw [readBody_of_inl ended]
    | inr next =>
        have goesOn : bodyAgain? (value, last) = some next := bodyAgain?_eq_some.2 ended
        cases stopped.symm.trans goesOn

end Json

/-- With every text the loops of both lexers come to an end, and so does the loop of a string
wherever one is read. -/
theorem loops_end {cursor : Cursor} (registry : cursor.registry = Registry.standard)
    (earlier text : String) :
    Calculator.lexer.Ends text ∧ Json.lexer.Ends text ∧ Json.BodyEnds earlier cursor :=
  ⟨Calculator.lexer.ends text, Json.lexer.ends text, Json.bodyEnds registry earlier⟩

/-- A string with an escaped quotation mark, and a text that ends inside an escape. -/
theorem loops_end_escape :
    (Cursor.ofString "a\\\"b\"").registry = Registry.standard ∧
      Calculator.lexer.Ends "\"\\" ∧ Json.lexer.Ends "\"\\" ∧
      ∃ count value last,
        Rounds Json.bodyAgain? count ("", Cursor.ofString "a\\\"b\"") (value, last) ∧
          2 * count ≤ 5 ∧
          Json.bodyRound value last = .inl (Json.readBody "" (Cursor.ofString "a\\\"b\"")) ∧
          (Json.readBody "" (Cursor.ofString "a\\\"b\"")).value = "a\"b" := by
  have registry : (Cursor.ofString "a\\\"b\"").registry = Registry.standard := rfl
  obtain ⟨calculator, json, body⟩ := loops_end registry "" "\"\\"
  obtain ⟨count, value, last, rounds, ended⟩ := body.stops
  have short := body.count_le rounds
  rw [Lexer.left_ofString] at short
  have reads := Json.reads_readBody "" _ (Json.quoting_of_registry registry (Int.le_refl _))
  refine ⟨registry, calculator, json, count, value, last, rounds, short, ended, ?_⟩
  rw [reads.value_eq, Cursor.ahead_of_started (Int.le_refl _)]
  decide

end TextCursor
