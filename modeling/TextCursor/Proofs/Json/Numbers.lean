import TextCursor.Proofs.Cursor.Rewind
import TextCursor.Proofs.Cursor.StandardClass
import TextCursor.Proofs.Json.Scanner

/-!
# Numbers of JSON texts

Every reader of the lexer takes one part of a number (`Takes`), and reading the parts
one after the other takes the number.
-/

namespace TextCursor.Json

open Cursor

variable {cursor : Cursor}

/-- A reader takes a part of what is ahead, and moves over it. -/
def Takes (reader : Cursor → String × Cursor) (part : List Char → List Char) : Prop :=
  ∀ cursor, Lexing cursor → (reader cursor).1 = String.ofList (part cursor.ahead) ∧
    Advanced (reader cursor).2 cursor (part cursor.ahead).length

/-- Reading one part after the other takes both. -/
theorem Takes.both {first second : Cursor → String × Cursor} {part rest : List Char → List Char}
    (takes : Takes first part) (takesRest : Takes second rest) :
    Takes (fun cursor => ((first cursor).1 ++ (second (first cursor).2).1,
      (second (first cursor).2).2)) (takeBoth part rest) := by
  intro cursor lexing
  obtain ⟨text, advanced⟩ := takes cursor lexing
  obtain ⟨restText, further⟩ := takesRest _ (lexing.advanced advanced)
  rw [advanced.ahead_eq lexing.started] at restText further
  constructor
  · simp only [text, restText, takeBoth, String.ofList_append]
  · simp only [takeBoth, List.length_append]
    exact further.trans advanced

theorem takes_readDigits : Takes readDigits (List.takeWhile Char.isDigit) := by
  intro cursor lexing
  rw [readDigits, takeWhile_digit lexing.registry_eq]
  exact ⟨rfl, advanced_pass cursor _⟩

theorem takes_readOneOf (allowed : List Char) : Takes (readOneOf allowed) (takeOneOf allowed) := by
  intro cursor lexing
  rw [readOneOf, peek?_eq]
  cases ahead : cursor.ahead with
  | nil => exact ⟨rfl, Advanced.refl cursor⟩
  | cons char chars =>
      simp only [List.head?_cons, takeOneOf]
      split
      · exact ⟨rfl, (next_of_ahead ahead).2⟩
      · exact ⟨rfl, Advanced.refl cursor⟩

theorem takes_readFraction : Takes readFraction takeFraction := by
  intro cursor lexing
  have dot := acceptClass_dot lexing.registry_eq
  by_cases point : cursor.ahead.head? = some '.'
  · rw [if_pos point] at dot
    obtain ⟨chars, ahead⟩ := List.head?_eq_some_iff.1 point
    have moved := advanced_consume cursor 1
    obtain ⟨digits, further⟩ := takes_readDigits _ (lexing.advanced moved)
    rw [ahead_consume_one ahead] at digits further
    simp only [readFraction, dot, if_true, digits, ahead, takeFraction, List.length_cons]
    constructor
    · rw [← String.toList_inj]
      simp
    · rw [Nat.add_comm]
      exact further.trans moved
  · rw [if_neg point] at dot
    simp only [readFraction, dot, Bool.false_eq_true, if_false, takeFraction_of_other point]
    exact ⟨trivial, Advanced.refl cursor⟩

theorem takes_readExponent : Takes readExponent takeExponent := by
  intro cursor lexing
  obtain ⟨mark, moved⟩ := takes_readOneOf ['e', 'E'] cursor lexing
  by_cases missing : takeOneOf ['e', 'E'] cursor.ahead = []
  · rw [missing] at mark moved
    simp only [readExponent, takeExponent, missing, if_true, mark]
    exact ⟨trivial, moved⟩
  · have present : (readOneOf ['e', 'E'] cursor).1 ≠ "" := by
      rw [mark]
      intro empty
      exact missing (String.ofList_eq_empty_iff.1 empty)
    simp only [readExponent, takeExponent, if_neg missing, if_neg present]
    exact ((takes_readOneOf ['e', 'E']).both (takes_readOneOf ['+', '-'])).both takes_readDigits
      cursor lexing

/-- Read the sign of a number, or nothing. -/
def readSign (cursor : Cursor) : String × Cursor :=
  (if (cursor.accept "-").1 then "-" else "", (cursor.accept "-").2)

theorem accept_minus (registry : cursor.registry = Registry.standard) :
    cursor.accept "-" =
      if cursor.ahead.head? = some '-' then (true, cursor.consume 1) else (false, cursor) := by
  have stands : cursor.registry.textOf? "-" = some "-" := by
    rw [registry]
    exact Registry.textOf?_of_nameless (by decide) (by decide)
  exact accept_of_char stands rfl

theorem takes_readSign : Takes readSign (takeOneOf ['-']) := by
  intro cursor lexing
  have minus := accept_minus lexing.registry_eq
  simp only [readSign, minus]
  cases ahead : cursor.ahead with
  | nil => exact ⟨rfl, Advanced.refl cursor⟩
  | cons char chars =>
      simp only [List.head?_cons, Option.some.injEq, takeOneOf, List.mem_singleton]
      split
      · rename_i same
        subst same
        exact ⟨rfl, advanced_consume cursor 1⟩
      · exact ⟨rfl, Advanced.refl cursor⟩

/-! ## Whole numbers -/

theorem readDigits_of_none (registry : cursor.registry = Registry.standard)
    (none : cursor.ahead.takeWhile Char.isDigit = []) : readDigits cursor = ("", cursor) := by
  rw [readDigits, takeWhile_digit registry, none]
  rfl

/-- Where no digit is behind the sign, nothing but the sign is read. -/
theorem attempt_of_missing (registry : cursor.registry = Registry.standard)
    (missing : wholeDigits cursor.ahead = []) :
    attempt cursor = ⟨(cursor.accept "-").1, "", (cursor.accept "-").2⟩ := by
  have digits : readDigits (cursor.accept "-").2 = ("", (cursor.accept "-").2) := by
    by_cases minus : cursor.ahead.head? = some '-'
    · rw [accept_minus registry, if_pos minus]
      obtain ⟨chars, ahead⟩ := List.head?_eq_some_iff.1 minus
      rw [ahead, wholeDigits_of_minus, ← ahead_consume_one ahead] at missing
      exact readDigits_of_none registry missing
    · rw [accept_minus registry, if_neg minus]
      rw [wholeDigits_of_other minus] at missing
      exact readDigits_of_none registry missing
  rw [attempt, digits]

/-- Where no digit is behind the sign, there is no number, and the sign is given back. -/
theorem readNumber_of_missing (registry : cursor.registry = Registry.standard)
    (room : 0 < cursor.history.capacity) (missing : wholeDigits cursor.ahead = []) (place : Int) :
    (readNumber place cursor).1 = none ∧
      GivenBack cursor (attempt cursor).cursor (readNumber place cursor).2 := by
  simp only [readNumber, attempt_of_missing registry missing, if_true]
  rw [accept_minus registry]
  split
  · exact ⟨trivial, .undo_consume room Nat.one_pos⟩
  · exact ⟨trivial, .refl cursor⟩

/-- A cursor with a digit ahead is within its text. -/
theorem lexing_of_digits (registry : cursor.registry = Registry.standard)
    (room : 0 < cursor.history.capacity) (present : wholeDigits cursor.ahead ≠ []) :
    Lexing cursor := by
  cases ahead : cursor.ahead with
  | nil =>
      rw [ahead] at present
      exact absurd rfl present
  | cons char chars =>
      exact ⟨registry, room, (inside_of_left_pos (left_pos_of_ahead ahead)).1⟩

/-- Where a digit is behind the sign, the whole number is read. -/
theorem readNumber_of_digits (lexing : Lexing cursor) (present : wholeDigits cursor.ahead ≠ [])
    (place : Int) :
    (readNumber place cursor).1 =
        some (.number (String.ofList (takeNumber cursor.ahead)) place) ∧
      Advanced (readNumber place cursor).2 cursor (takeNumber cursor.ahead).length := by
  obtain ⟨-, moved⟩ := takes_readSign cursor lexing
  obtain ⟨digits, -⟩ := takes_readDigits _ (lexing.advanced moved)
  rw [moved.ahead_eq lexing.started] at digits
  have some : (attempt cursor).digits ≠ "" := by
    intro empty
    exact present (String.ofList_eq_empty_iff.1 (digits.symm.trans empty))
  obtain ⟨text, advanced⟩ :=
    ((takes_readSign.both takes_readDigits).both takes_readFraction).both takes_readExponent
      cursor lexing
  simp only [readNumber, if_neg some]
  exact ⟨congrArg (fun spelling => Option.some (Token.number spelling place)) text, advanced⟩

theorem realises_number : number.Realises numbers := by
  intro place cursor lexing
  by_cases missing : wholeDigits cursor.ahead = []
  · obtain ⟨nothing, back⟩ := readNumber_of_missing lexing.registry_eq lexing.room missing place
    simp only [number, numbers, if_pos missing, silently, nothing]
    exact ⟨rfl, back.advanced⟩
  · obtain ⟨found, advanced⟩ := readNumber_of_digits lexing missing place
    simp only [number, numbers, if_neg missing, silently, found]
    exact ⟨rfl, advanced⟩

end TextCursor.Json
