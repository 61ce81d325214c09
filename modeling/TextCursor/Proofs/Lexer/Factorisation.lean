import TextCursor.Proofs.Lexer.Scanner

/-!
# Every character is accounted for

A scanner that always reads one thing at a time divides a text into segments: the characters
of one thing, and the white space up to the next one.  The segments stand one behind the
other (`Consecutive`), so no character is passed over and none is used twice
(`Scanner.Describes.exists_segments`).
-/

namespace TextCursor

variable {τ : Type} {stands : Finding τ → Int → List Char → Prop}

/-- A finding with the characters for which it stands, and the white space behind
them. -/
structure Segment (stands : Finding τ → Int → List Char → Prop) where
  finding : Finding τ
  place : Int
  covered : List Char
  gap : List Char
  stands : stands finding place covered
  visible : ∃ first rest, covered = first :: rest ∧ Text.isWhiteSpace first = false
  blank : ∀ char ∈ gap, Text.isWhiteSpace char = true

namespace Segment

/-- The characters of a segment. -/
def chars (segment : Segment stands) : List Char := segment.covered ++ segment.gap

theorem length_chars_pos (segment : Segment stands) : 0 < segment.chars.length := by
  obtain ⟨first, rest, same, -⟩ := segment.visible
  rw [chars, same]
  exact Nat.succ_pos _

/-- Each segment is at the place where the one before it ends; the first one is at the given
place. -/
def Consecutive : Int → List (Segment stands) → Prop
  | _, [] => True
  | place, segment :: segments =>
      segment.place = place ∧ Consecutive (segment.place + segment.chars.length) segments

namespace Consecutive

variable {place : Int} {segment : Segment stands} {segments before after : List (Segment stands)}

/-- A segment is at the place where everything before it ends. -/
theorem place_eq (consecutive : Consecutive place (before ++ segment :: after)) :
    segment.place = place + (before.flatMap chars).length := by
  induction before generalizing place with
  | nil => exact consecutive.1.trans (Int.add_zero _).symm
  | cons first before ih =>
      obtain ⟨here, later⟩ := consecutive
      rw [ih later, here, List.flatMap_cons, List.length_append, Int.natCast_add, Int.add_assoc]

theorem place_le (consecutive : Consecutive place segments) :
    ∀ segment ∈ segments, place ≤ segment.place := by
  intro segment member
  obtain ⟨before, after, rfl⟩ := List.append_of_mem member
  rw [consecutive.place_eq]
  exact Int.le_add_of_nonneg_right (Int.natCast_nonneg _)

theorem pairwise_lt (consecutive : Consecutive place segments) :
    segments.Pairwise (·.place < ·.place) := by
  induction segments generalizing place with
  | nil => exact .nil
  | cons segment segments ih =>
      obtain ⟨-, later⟩ := consecutive
      refine .cons ?_ (ih later)
      intro other member
      have size := segment.length_chars_pos
      have order := later.place_le other member
      omega

/-- A segment lies within the text that it is a segment of. -/
theorem place_lt (consecutive : Consecutive place segments) :
    ∀ segment ∈ segments, segment.place < place + (segments.flatMap chars).length := by
  intro segment member
  obtain ⟨before, after, rfl⟩ := List.append_of_mem member
  have size := segment.length_chars_pos
  rw [consecutive.place_eq, List.flatMap_append, List.flatMap_cons, List.length_append,
    List.length_append]
  omega

end Consecutive

end Segment

namespace Scanner

variable {scanner : Scanner τ} {counts : Finding τ → Bool}

/-- Among the findings that count, the scanner reads one at a time, and it stands for the
characters that are read. -/
def Describes (scanner : Scanner τ) (counts : Finding τ → Bool)
    (stands : Finding τ → Int → List Char → Prop) : Prop :=
  ∀ {place chars found count}, scanner.scan place chars = some (found, count) →
    ∃ finding, found.filter counts = [finding] ∧ stands finding place (chars.take count)

namespace Describes

/-- White space and segments make up the whole text, and the segments are what is found. -/
theorem exists_segments (describes : scanner.Describes counts stands) (endToken : Int → τ)
    (skips : ∀ char place, counts (.event (.characterSkipped char place)) = true ∧
      stands (.event (.characterSkipped char place)) place [char])
    (ends : ∀ place, counts (.token (endToken place)) = false) (place : Int)
    (chars : List Char) :
    ∃ (leading : List Char) (segments : List (Segment stands)),
      chars = leading ++ segments.flatMap Segment.chars ∧
      (∀ char ∈ leading, Text.isWhiteSpace char = true) ∧
      (scanner.findings endToken place chars).filter counts = segments.map Segment.finding ∧
      Segment.Consecutive (place + leading.length) segments := by
  fun_induction findings scanner endToken place chars with
  | case1 place => exact ⟨[], [], rfl, by simp, by simp [ends], trivial⟩
  | case2 place char chars blank ih =>
      obtain ⟨leading, segments, split, blanks, found, consecutive⟩ := ih
      refine ⟨char :: leading, segments, congrArg (char :: ·) split, ?_, found, ?_⟩
      · intro other member
        rcases List.mem_cons.1 member with rfl | later
        · exact blank
        · exact blanks other later
      · rw [List.length_cons, Int.natCast_succ, Int.add_comm (leading.length : Int),
          ← Int.add_assoc]
        exact consecutive
  | case3 place char chars visible first count read ih =>
      obtain ⟨finding, only, standing⟩ := describes read
      obtain ⟨leading, segments, split, blanks, found, consecutive⟩ := ih
      obtain ⟨size, same⟩ := Nat.exists_eq_succ_of_ne_zero (Nat.ne_of_gt (scanner.count_pos read))
      refine ⟨[], ⟨finding, place, (char :: chars).take count, leading, standing,
        ⟨char, chars.take size, by rw [same, List.take_succ_cons], by simpa using visible⟩,
        blanks⟩ :: segments, ?_, by simp, ?_, ?_⟩
      · rw [List.nil_append, List.flatMap_cons, Segment.chars, List.append_assoc, ← split,
          List.take_append_drop]
      · rw [List.filter_append, only, found]
        rfl
      · refine ⟨(Int.add_zero _).symm, ?_⟩
        cases segments with
        | nil => trivial
        | cons next segments =>
            -- with a segment behind it, what is read cannot reach over the end
            have inside : count ≤ (char :: chars).length := by
              have rest := congrArg List.length split
              have present := next.length_chars_pos
              simp only [List.length_drop, List.length_append, List.flatMap_cons] at rest
              omega
            simp only [Segment.chars, List.length_append, List.length_take,
              Nat.min_eq_left inside, Int.natCast_add, ← Int.add_assoc]
            exact consecutive
  | case4 place char chars visible missing ih =>
      obtain ⟨leading, segments, split, blanks, found, consecutive⟩ := ih
      obtain ⟨counted, standing⟩ := skips char place
      refine ⟨[], ⟨.event (.characterSkipped char place), place, [char], leading, standing,
        ⟨char, [], rfl, by simpa using visible⟩, blanks⟩ :: segments, ?_, by simp, ?_, ?_⟩
      · exact congrArg (char :: ·) split
      · rw [List.filter_cons_of_pos counted, found]
        rfl
      · refine ⟨(Int.add_zero _).symm, ?_⟩
        simp only [Segment.chars, List.length_append, List.length_singleton, Int.natCast_add,
          ← Int.add_assoc]
        exact consecutive

end Describes

end Scanner

end TextCursor
