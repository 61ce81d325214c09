import TextCursor.Proofs.Calculator.MaximalMunch
import TextCursor.Proofs.Json.Numbers

/-!
# A failed reader gives everything back

Most readers decide before they move: when they find nothing, the cursor is the one they
got.  The two readers of numbers find out on the way, and have to step back through the
history (`GivenBack`).  It remembers the beginning of their only move even if it was full,
for then it has forgotten its oldest position instead.
-/

namespace TextCursor

open Cursor

variable {cursor : Cursor} {place : Int}

namespace Calculator

theorem readMark_eq_none (failed : (readMark place cursor).1 = none) :
    (readMark place cursor).2 = cursor := by
  unfold readMark at failed ⊢
  split at failed
  · cases failed
  · rfl

/-- A number that is not there gives the digits and the point back that were read. -/
theorem givenBack_readNumber (registry : cursor.registry = Registry.standard)
    (room : 0 < cursor.history.capacity) (failed : (readNumber place cursor).1 = none) :
    GivenBack cursor (attempt cursor).2 (readNumber place cursor).2 := by
  rw [readNumber_eq registry] at failed ⊢
  rw [attempt_eq registry]
  split at failed
  · cases failed
  · rename_i unreadable
    refine givenBack_rewind_munched room ?_
    rw [← Decimal.isSome_readChars?_iff, unreadable]
    exact Bool.false_ne_true

end Calculator

namespace Json

/-- A table of names none of which fits leaves the cursor alone. -/
theorem acceptFirst_eq_none {β : Type} {entries : List (String × β)}
    (failed : (acceptFirst cursor entries).1 = none) :
    (acceptFirst cursor entries).2 = cursor := by
  induction entries with
  | nil => rfl
  | cons entry entries ih =>
      unfold acceptFirst at failed ⊢
      dsimp only at failed ⊢
      split at failed
      · cases failed
      · rename_i refused
        have same : (cursor.accept entry.1).2 = cursor :=
          acceptAny_eq_false (Bool.not_eq_true _ ▸ refused)
        rw [same] at failed
        rw [if_neg refused, same]
        exact ih failed

theorem readPunctuation_eq_none (failed : (readPunctuation place cursor).1 = none) :
    (readPunctuation place cursor).2 = cursor :=
  acceptFirst_eq_none (Option.map_eq_none_iff.1 failed)

theorem readKeyword_eq_none (failed : (readKeyword place cursor).1 = none) :
    (readKeyword place cursor).2 = cursor :=
  acceptFirst_eq_none (Option.map_eq_none_iff.1 failed)

theorem readString_eq_none (failed : (readString place cursor).1 = none) :
    (readString place cursor).2 = cursor := by
  unfold readString at failed ⊢
  dsimp only at failed ⊢
  split at failed
  · cases failed
  · rename_i refused
    rw [if_neg refused]
    exact acceptAny_eq_false (Bool.not_eq_true _ ▸ refused)

/-- A number that is not there gives its sign back. -/
theorem givenBack_readNumber (registry : cursor.registry = Registry.standard)
    (room : 0 < cursor.history.capacity) (failed : (readNumber place cursor).1 = none) :
    GivenBack cursor (attempt cursor).cursor (readNumber place cursor).2 := by
  by_cases missing : wholeDigits cursor.ahead = []
  · exact (readNumber_of_missing registry room missing place).2
  · have lexing := lexing_of_digits registry room missing
    have found := (readNumber_of_digits lexing missing place).1
    rw [failed] at found
    cases found

end Json

/-- Whatever the position is and whatever the history holds, a reader that finds nothing
is back where it began.  The history is the same as before, unless it was full and the
reader had moved: then its oldest position is missing. -/
theorem readers_give_back (registry : cursor.registry = Registry.standard)
    (room : 1 ≤ cursor.history.capacity) (place : Int) :
    ((Calculator.readNumber place cursor).1 = none →
      GivenBack cursor (Calculator.attempt cursor).2 (Calculator.readNumber place cursor).2) ∧
    ((Calculator.readMark place cursor).1 = none →
      (Calculator.readMark place cursor).2 = cursor) ∧
    ((Json.readPunctuation place cursor).1 = none →
      (Json.readPunctuation place cursor).2 = cursor) ∧
    ((Json.readKeyword place cursor).1 = none → (Json.readKeyword place cursor).2 = cursor) ∧
    ((Json.readString place cursor).1 = none → (Json.readString place cursor).2 = cursor) ∧
    ((Json.readNumber place cursor).1 = none →
      GivenBack cursor (Json.attempt cursor).cursor (Json.readNumber place cursor).2) :=
  ⟨Calculator.givenBack_readNumber registry room, Calculator.readMark_eq_none,
    Json.readPunctuation_eq_none, Json.readKeyword_eq_none, Json.readString_eq_none,
    Json.givenBack_readNumber registry room⟩

/-- A cursor before a text, with a full history that holds the position of the cursor. -/
def fullBefore (text : String) : Cursor :=
  { ofString text ⟨2, Registry.standard⟩ with history := BoundedStack.ofList [-1, 4] 2 }

theorem readers_give_back_full :
    (∀ text, (fullBefore text).registry = Registry.standard ∧
      1 ≤ (fullBefore text).history.capacity) ∧
    (Calculator.readNumber 0 (fullBefore ".+")).1 = none ∧
    (Calculator.readNumber 0 (fullBefore ".+")).2.position = -1 ∧
    (Calculator.readNumber 0 (fullBefore ".+")).2.history.toList = [4] ∧
    (Json.readNumber 0 (fullBefore "-x")).1 = none ∧
    (Json.readNumber 0 (fullBefore "-x")).2.position = -1 ∧
    (Json.readNumber 0 (fullBefore "-x")).2.history.toList = [4] := by
  have registry (text : String) : (fullBefore text).registry = Registry.standard := rfl
  have room (text : String) : 1 ≤ (fullBefore text).history.capacity := Nat.le_succ 1
  have pointAhead : (fullBefore ".+").ahead = ['.', '+'] := by
    rw [ahead_eq]
    rfl
  have signAhead : (fullBefore "-x").ahead = ['-', 'x'] := by
    rw [ahead_eq]
    rfl
  have noNumeral : (Calculator.readNumber 0 (fullBefore ".+")).1 = none := by
    rw [Calculator.readNumber_eq rfl, pointAhead]
    rfl
  have noDigits : Json.wholeDigits (fullBefore "-x").ahead = [] := by
    rw [signAhead]
    rfl
  have noNumber := (Json.readNumber_of_missing rfl (room "-x") noDigits 0).1
  have pointRead : -1 < (Calculator.attempt (fullBefore ".+")).2.position := by
    rw [Calculator.attempt_eq rfl, (Calculator.advanced_munched _).position_eq, pointAhead]
    decide
  have signRead : -1 < (Json.attempt (fullBefore "-x")).cursor.position := by
    rw [Json.attempt_of_missing rfl noDigits, Json.accept_minus rfl, signAhead]
    decide
  have point := (readers_give_back (registry ".+") (room ".+") 0).1 noNumeral
  have sign := (readers_give_back (registry "-x") (room "-x") 0).2.2.2.2.2 noNumber
  refine ⟨fun text => ⟨registry text, room text⟩, noNumeral, point.position_eq, ?_, noNumber,
    sign.position_eq, ?_⟩
  · rw [point.toList_eq, if_pos ⟨rfl, pointRead⟩]
    rfl
  · rw [sign.toList_eq, if_pos ⟨rfl, signRead⟩]
    rfl

end TextCursor
