import Mathlib.Data.List.Infix
import TextCursor.Proofs.Json.NumberGrammar
import TextCursor.Proofs.Json.Numbers

/-!
# The longest number

A number is read part by part, and no part is ever read again in another way.  Still
nothing longer could be read: each part takes as much as it can, so a part that could go
on in a longer text has taken all of the shorter one (`Greedy`).  What is read is
therefore the longest number that the text begins with (`isLongestNumber_takeNumber`).
-/

namespace TextCursor.Json

open Cursor Decimal

/-! ## Parts that take as much as they can -/

/-- A part of a text ends within each beginning of the text, where it ends in the text
too, or takes all of the beginning. -/
def Greedy (part : List Char → List Char) : Prop :=
  ∀ beginning chars, beginning <+: chars →
    (part beginning = beginning ∧ beginning <+: part chars) ∨ part beginning = part chars

theorem greedy_takeOneOf (allowed : List Char) : Greedy (takeOneOf allowed) := by
  rintro beginning _ ⟨rest, rfl⟩
  cases beginning with
  | nil => exact .inl ⟨rfl, List.nil_prefix⟩
  | cons char beginning => exact .inr rfl

theorem greedy_takeDigits : Greedy (List.takeWhile Char.isDigit) := by
  rintro beginning _ ⟨rest, rfl⟩
  by_cases only : OnlyDigits beginning
  · refine .inl ⟨List.takeWhile_eq_self_iff.2 only, ?_⟩
    rw [List.takeWhile_append_of_pos only]
    exact List.prefix_append _ _
  · refine .inr ?_
    rw [List.takeWhile_append, if_neg]
    intro whole
    exact only (List.takeWhile_eq_self_iff.1
      ((List.takeWhile_prefix _).eq_of_length whole))

theorem greedy_takeFraction : Greedy takeFraction := by
  intro beginning chars starts
  cases beginning with
  | nil => exact .inl ⟨rfl, List.nil_prefix⟩
  | cons char beginning =>
      obtain ⟨behind, rfl, further⟩ := List.cons_prefix_iff.1 starts
      by_cases point : char = '.'
      · subst point
        rcases greedy_takeDigits _ _ further with ⟨all, longer⟩ | same
        · refine .inl ⟨?_, ?_⟩
          · rw [takeFraction, all]
          · exact List.cons_prefix_cons.2 ⟨rfl, longer⟩
        · exact .inr (congrArg ('.' :: ·) same)
      · have other (chars : List Char) : (char :: chars).head? ≠ some '.' :=
          fun first => point (Option.some.inj first)
        rw [takeFraction_of_other (other _), takeFraction_of_other (other _)]
        exact .inr rfl

/-- Parts that are greedy are so one after the other. -/
theorem Greedy.both {first second : List Char → List Char} (greedy : Greedy first)
    (greedyRest : Greedy second) (isPrefix : ∀ chars, first chars <+: chars)
    (isPrefixRest : ∀ chars, second chars <+: chars) : Greedy (takeBoth first second) := by
  intro beginning chars starts
  rcases greedy _ _ starts with ⟨all, longer⟩ | same
  · refine .inl ⟨?_, longer.trans (List.prefix_append _ _)⟩
    have nothing : second [] = [] := List.prefix_nil.1 (isPrefixRest [])
    rw [takeBoth, all, List.drop_length, nothing, List.append_nil]
  · -- The first part ends within the beginning, so the second one goes on in what is left of it.
    have split : first chars ++ beginning.drop (first chars).length = beginning := by
      rw [← same]
      exact (List.prefix_iff_eq_append.1 (isPrefix beginning))
    have startsRest : beginning.drop (first chars).length <+: chars.drop (first chars).length :=
      starts.drop _
    rcases greedyRest _ _ startsRest with ⟨all, longer⟩ | sameRest
    · refine .inl ⟨?_, ?_⟩
      · rw [takeBoth, same, all, split]
      · rw [← split]
        exact (List.prefix_append_right_inj _).2 longer
    · rw [takeBoth, same, sameRest]
      exact .inr rfl

theorem greedy_takeExponent : Greedy takeExponent := by
  intro beginning chars starts
  cases beginning with
  | nil => exact .inl ⟨rfl, List.nil_prefix⟩
  | cons char beginning =>
      obtain ⟨behind, rfl, -⟩ := List.cons_prefix_iff.1 starts
      have marks : takeOneOf ['e', 'E'] (char :: beginning) =
        takeOneOf ['e', 'E'] (char :: behind) := rfl
      rw [takeExponent, takeExponent, marks]
      split
      · exact .inr rfl
      · exact ((greedy_takeOneOf _).both (greedy_takeOneOf _) (isPrefix_takeOneOf _)
          (isPrefix_takeOneOf _)).both greedy_takeDigits
          (isPrefix_takeBoth (isPrefix_takeOneOf _) (isPrefix_takeOneOf _))
          (fun _ => List.takeWhile_prefix _) _ _ starts

theorem greedy_takeWhole : Greedy takeWhole :=
  (greedy_takeOneOf _).both greedy_takeDigits (isPrefix_takeOneOf _)
    fun _ => List.takeWhile_prefix _

theorem greedy_takeNumber : Greedy takeNumber :=
  (greedy_takeWhole.both greedy_takeFraction isPrefix_takeWhole isPrefix_takeFraction).both
    greedy_takeExponent (isPrefix_takeBoth isPrefix_takeWhole isPrefix_takeFraction)
    isPrefix_takeExponent

/-! ## What is taken is a number -/

theorem isSign_takeOneOf (allowed chars : List Char) :
    IsSign allowed (takeOneOf allowed chars) := by
  cases chars with
  | nil => exact .absent
  | cons char chars =>
      rw [takeOneOf]
      split
      · rename_i member
        exact .present member
      · exact .absent

theorem isFraction_takeFraction (chars : List Char) : IsFraction (takeFraction chars) := by
  rw [takeFraction.eq_def]
  split
  · exact .present (onlyDigits_takeWhile _)
  · exact .absent

theorem isExponent_takeExponent (chars : List Char) : IsExponent (takeExponent chars) := by
  rw [takeExponent]
  split
  · exact .absent
  · rename_i marked
    have mark := isSign_takeOneOf ['e', 'E'] chars
    rw [takeBoth, takeBoth]
    generalize takeOneOf ['e', 'E'] chars = taken at mark marked ⊢
    cases mark with
    | absent => exact absurd rfl marked
    | present member => exact .present member (isSign_takeOneOf _ _) (onlyDigits_takeWhile _)

theorem isNumber_takeNumber {chars : List Char} (present : wholeDigits chars ≠ []) :
    IsNumber (takeNumber chars) :=
  .intro (isSign_takeOneOf _ _) present (onlyDigits_takeWhile _) (isFraction_takeFraction _)
    (isExponent_takeExponent _)

/-- A number is the longest one that a text begins with. -/
structure IsLongestNumber (chars number : List Char) : Prop where
  isNumber : IsNumber number
  isPrefix : number <+: chars
  longest : ∀ other, IsNumber other → other <+: chars → other.length ≤ number.length

theorem IsLongestNumber.unique {chars number other : List Char}
    (longest : IsLongestNumber chars number) (otherLongest : IsLongestNumber chars other) :
    number = other := by
  have longer := otherLongest.longest number longest.isNumber longest.isPrefix
  have shorter := longest.longest other otherLongest.isNumber otherLongest.isPrefix
  exact (List.prefix_of_prefix_length_le longest.isPrefix otherLongest.isPrefix
    longer).eq_of_length_le shorter

/-- Nothing longer is a number than what is taken. -/
theorem isLongestNumber_takeNumber {chars : List Char} (present : wholeDigits chars ≠ []) :
    IsLongestNumber chars (takeNumber chars) where
  isNumber := isNumber_takeNumber present
  isPrefix := isPrefix_takeNumber chars
  longest := by
    intro other number starts
    have nothing : Stops [] := fun char first => nomatch first
    have all := (number.takeNumber_append nothing).1
    rw [List.append_nil] at all
    rcases greedy_takeNumber _ _ starts with ⟨-, longer⟩ | same
    · exact longer.length_le
    · rw [← same, all]

/-! ## Where a number is read -/

/-- The texts that begin with a number: there is a digit, possibly behind a sign. -/
inductive NumberAhead : List Char → Prop where
  | unsigned {digit : Char} (isDigit : digit.isDigit = true) (rest : List Char) :
      NumberAhead (digit :: rest)
  | signed {digit : Char} (isDigit : digit.isDigit = true) (rest : List Char) :
      NumberAhead ('-' :: digit :: rest)

theorem takeWhile_digit_ne_nil {chars : List Char} :
    chars.takeWhile Char.isDigit ≠ [] ↔
      ∃ digit rest, chars = digit :: rest ∧ digit.isDigit = true := by
  cases chars with
  | nil => simp
  | cons char chars => cases digit : char.isDigit <;> simp [digit]

theorem wholeDigits_ne_nil {chars : List Char} : wholeDigits chars ≠ [] ↔ NumberAhead chars := by
  constructor
  · intro present
    by_cases minus : chars.head? = some '-'
    · obtain ⟨rest, rfl⟩ := List.head?_eq_some_iff.1 minus
      rw [wholeDigits_of_minus] at present
      obtain ⟨digit, rest, rfl, isDigit⟩ := takeWhile_digit_ne_nil.1 present
      exact .signed isDigit rest
    · rw [wholeDigits_of_other minus] at present
      obtain ⟨digit, rest, rfl, isDigit⟩ := takeWhile_digit_ne_nil.1 present
      exact .unsigned isDigit rest
  · rintro (⟨isDigit, rest⟩ | ⟨isDigit, rest⟩)
    · rw [wholeDigits_of_other, takeWhile_digit_ne_nil]
      · exact ⟨_, rest, rfl, isDigit⟩
      · rintro minus
        cases minus
        cases isDigit
    · rw [wholeDigits_of_minus, takeWhile_digit_ne_nil]
      exact ⟨_, rest, rfl, isDigit⟩

/-- From any position, a number is read exactly where a digit is next, or a minus sign and
a digit: it is the longest number that is ahead, and all of it is consumed.  Everywhere
else the cursor is where it was, even if its history was full. -/
theorem readNumber_longest {cursor : Cursor} (registry : cursor.registry = Registry.standard)
    (room : 1 ≤ cursor.history.capacity) (place : Int) :
    ((readNumber place cursor).1.isSome ↔ NumberAhead cursor.remaining.toList) ∧
    (∀ token, (readNumber place cursor).1 = some token →
      ∃ spelling : String, token = .number spelling place ∧
        IsLongestNumber cursor.remaining.toList spelling.toList ∧
        (readNumber place cursor).2.position = cursor.position + spelling.length) ∧
    ((readNumber place cursor).1 = none →
      (readNumber place cursor).2.position = cursor.position) := by
  rw [← Cursor.ahead, ← wholeDigits_ne_nil]
  by_cases missing : wholeDigits cursor.ahead = []
  · obtain ⟨nothing, back⟩ := readNumber_of_missing registry room missing place
    rw [nothing]
    refine ⟨?_, ?_, fun _ => back.position_eq⟩
    · simp [missing]
    · intro token found
      cases found
  · have lexing := lexing_of_digits registry room missing
    obtain ⟨found, advanced⟩ := readNumber_of_digits lexing missing place
    rw [found]
    refine ⟨?_, ?_, ?_⟩
    · simp [missing]
    · rintro token same
      cases same
      refine ⟨_, rfl, ?_, ?_⟩
      · rw [String.toList_ofList]
        exact isLongestNumber_takeNumber missing
      · rw [String.length_ofList]
        exact advanced.position_eq
    · intro none
      cases none

/-- A cursor in front of a number with neither a digit behind its point nor one in its
exponent. -/
def beforeExponent : Cursor := { ofString "é-12.e+x" with position := 0 }

theorem readNumber_longest_exponent :
    beforeExponent.registry = Registry.standard ∧ 1 ≤ beforeExponent.history.capacity ∧
      (readNumber 1 beforeExponent).1 = some (.number "-12.e+" 1) ∧
      (readNumber 1 beforeExponent).2.position = 6 := by
  have registry : beforeExponent.registry = Registry.standard := rfl
  have room : 1 ≤ beforeExponent.history.capacity := by decide
  have ahead : beforeExponent.ahead = ['-', '1', '2', '.', 'e', '+', 'x'] := by
    rw [Cursor.ahead_eq]
    rfl
  obtain ⟨whether, result, -⟩ := readNumber_longest registry room 1
  rw [← Cursor.ahead, ahead] at whether result
  obtain ⟨token, found⟩ := Option.isSome_iff_exists.1 (whether.2 (.signed rfl _))
  obtain ⟨spelling, rfl, longest, moved⟩ := result token found
  have spelled := longest.unique (isLongestNumber_takeNumber (by decide))
  obtain rfl : spelling = "-12.e+" := String.toList_inj.1 spelled
  exact ⟨registry, room, found, moved⟩

end TextCursor.Json
