import TextCursor.Proofs.Json.Findings
import TextCursor.Proofs.Json.NumberGrammar
import TextCursor.Proofs.Lexer.Factorisation

/-!
# What JSON tokens stand for

Whether a text is well-formed or not, every visible character of it belongs to exactly
one token or is skipped and reported.  A punctuation mark, a keyword and a number stand
for their spelling, and a string for characters that begin with a quotation mark
(`findings_factorise`).
-/

namespace TextCursor.Json

/-- A finding stands for characters at a place of the text. -/
inductive Stands : Finding Token → Int → List Char → Prop where
  | skipped (char : Char) (place : Int) :
      Stands (.event (.characterSkipped char place)) place [char]
  | punctuation (mark : Punctuation) (place : Int) :
      Stands (.token (.punctuation mark place)) place [mark.char]
  | boolean (value : Bool) (place : Int) :
      Stands (.token (.boolean value place)) place (if value then "true" else "false").toList
  | null (place : Int) : Stands (.token (.null place)) place "null".toList
  | number (spelling : String) (place : Int) :
      Stands (.token (.number spelling place)) place spelling.toList
  | string (value : String) (place : Int) (rest : List Char) :
      Stands (.token (.string value place)) place ('"' :: rest)

/-- Whether a finding is a skipped character or a token other than the one at the end. -/
def isSegment : Finding Token → Bool
  | .token (.eof _) => false
  | .token _ => true
  | .event (.characterSkipped _ _) => true
  | .event _ => false

theorem describes_scanner : scanner.Describes isSegment Stands := by
  intro place chars found count read
  cases reads_of_scan read with
  | punctuation mark rest => exact ⟨_, rfl, .punctuation mark place⟩
  | boolean value rest =>
      rw [← String.length_toList, List.take_left]
      exact ⟨_, rfl, .boolean value place⟩
  | null rest => exact ⟨_, rfl, .null place⟩
  | string rest =>
      refine ⟨.token (.string (String.ofList (scanBody rest).value) place), ?_, .string _ place _⟩
      cases (scanBody rest).ending <;> rfl
  | number digits =>
      have stands := Stands.number (String.ofList (takeNumber chars)) place
      rw [String.toList_ofList] at stands
      rw [← List.prefix_iff_eq_take.1 (isPrefix_takeNumber chars)]
      exact ⟨_, rfl, stands⟩

/-- White space and the segments for which findings stand make up the whole text. -/
theorem exists_segments (text : String) :
    ∃ (leading : List Char) (segments : List (Segment Stands)),
      text.toList = leading ++ segments.flatMap Segment.chars ∧
      (∀ char ∈ leading, Text.isWhiteSpace char = true) ∧
      (lexer.findings text).filter isSegment = segments.map Segment.finding ∧
      Segment.Consecutive leading.length segments := by
  obtain ⟨leading, segments, split, blank, found, consecutive⟩ :=
    describes_scanner.exists_segments .eof (fun char place => ⟨rfl, .skipped char place⟩)
      (fun _ => rfl) 0 text.toList
  rw [← findings_eq] at found
  rw [Int.zero_add] at consecutive
  exact ⟨leading, segments, split, blank, found, consecutive⟩

/-- A text is made up of white space and of segments for which the tokens and the skipped
characters stand, in the order in which they are found, each at the place where its
segment begins.  So the places increase, and no character is used twice or passed over. -/
theorem findings_factorise (text : String) :
    ∃ (leading : List Char) (segments : List (Segment Stands)),
      text.toList = leading ++ segments.flatMap Segment.chars ∧
      (∀ char ∈ leading, Text.isWhiteSpace char = true) ∧
      (lexer.findings text).filter isSegment = segments.map Segment.finding ∧
      (∀ before segment after, segments = before ++ segment :: after →
        segment.place = ((leading ++ before.flatMap Segment.chars).length : Int)) ∧
      segments.Pairwise (·.place < ·.place) := by
  obtain ⟨leading, segments, split, blank, found, consecutive⟩ := exists_segments text
  refine ⟨leading, segments, split, blank, found, ?_, consecutive.pairwise_lt⟩
  rintro before segment after rfl
  rw [consecutive.place_eq, List.length_append, Int.natCast_add]

end TextCursor.Json
