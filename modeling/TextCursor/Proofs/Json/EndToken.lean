import TextCursor.Proofs.Json.Factorisation

/-!
# The end of JSON texts

The tokens of a text end with one token for its end, and no other.  It stands at the
end of the text, and so no token is placed behind the text, with one exception: the
step over a backslash takes the end of the text for a character, and then the last token
stands one place further (`tokens_eq_append_eof`).
-/

namespace TextCursor.Json

/-- Not the token of the end. -/
def Token.IsProper (token : Token) : Prop := ∀ place, token ≠ .eof place

/-- Whether an event reports a backslash at the end of the text. -/
def isCutEscape : Report Token → Bool
  | .unterminatedEscape _ => true
  | _ => false

/-- A string that ends behind a last backslash counts one character more than there
are. -/
theorem count_scanBody (chars : List Char) :
    if (scanBody chars).ending = .inEscape then (scanBody chars).count = chars.length + 1
    else (scanBody chars).count ≤ chars.length := by
  fun_induction scanBody chars with
  | case1 => exact Nat.le_refl 0
  | case2 rest => exact Nat.succ_le_succ (Nat.zero_le _)
  | case3 => rfl
  | case4 char chars rest ih =>
      simp only [rest, List.length_cons]
      split <;> rename_i ending
      · rw [if_pos ending] at ih
        rw [ih]
      · rw [if_neg ending] at ih
        exact Nat.add_le_add_right ih 2
  | case5 char chars _ _ _ rest ih =>
      simp only [rest, List.length_cons]
      split <;> rename_i ending
      · rw [if_pos ending] at ih
        rw [ih]
      · rw [if_neg ending] at ih
        exact Nat.add_le_add_right ih 1

/-- Whether a finding reports a backslash at the end of the text. -/
def reportsCut (finding : Finding Token) : Bool := finding.event?.any isCutEscape

theorem overshoots_scanner : scanner.Overshoots reportsCut := by
  intro place chars found count read
  cases reads_of_scan read with
  | punctuation mark rest => exact Nat.succ_le_succ (Nat.zero_le _)
  | boolean value rest =>
      rw [← String.length_toList, List.length_append]
      exact Nat.le_add_right _ _
  | null rest =>
      rw [List.length_append]
      exact Nat.le_add_right _ _
  | string rest =>
      have size := count_scanBody rest
      cases ending : (scanBody rest).ending <;> rw [ending] at size
      · exact Nat.succ_le_succ size
      · exact Nat.succ_le_succ size
      · exact congrArg Nat.succ size
  | number digits => exact (isPrefix_takeNumber chars).length_le

theorem yields_scanner : scanner.Yields Token.IsProper := by
  intro place chars found count read token member other same
  subst same
  cases reads_of_scan read with
  | punctuation mark rest => simp at member
  | boolean value rest => simp at member
  | null rest => simp at member
  | string rest => simp at member
  | number digits => simp at member

/-! ## The lexer -/

theorem Stands.offset_eq {token : Token} {place : Int} {chars : List Char}
    (stands : Stands (.token token) place chars) : token.offset = place := by
  cases stands <;> rfl

theorem isSegment_of_isProper {token : Token} (proper : token.IsProper) :
    isSegment (.token token) = true := by
  cases token with
  | eof place => exact absurd rfl (proper place)
  | _ => rfl

/-- A token that is found is placed in the text, unless it is the one at the end. -/
theorem offset_of_isProper {text : String} {token : Token} (proper : token.IsProper)
    (found : .token token ∈ lexer.findings text) :
    0 ≤ token.offset ∧ token.offset < text.length := by
  obtain ⟨leading, segments, split, -, same, consecutive⟩ := exists_segments text
  have counted := List.mem_filter.2 ⟨found, isSegment_of_isProper proper⟩
  rw [same] at counted
  obtain ⟨segment, member, standing⟩ := List.mem_map.1 counted
  have stands := segment.stands
  rw [standing] at stands
  have least := consecutive.place_le segment member
  have greatest := consecutive.place_lt segment member
  rw [← Int.natCast_add, ← List.length_append, ← split, String.length_toList] at greatest
  rw [stands.offset_eq]
  exact ⟨Int.le_trans (Int.natCast_nonneg _) least, greatest⟩

/-- One token for the end stands behind all other tokens, which are placed in the text.
Its own place is the end of the text, or one more if the text is cut off behind the
backslash of an escape. -/
theorem tokens_eq_append_eof (text : String) :
    ∃ proper, tokens text =
        proper ++ [.eof (text.length + if (events text).any isCutEscape then 1 else 0)] ∧
      ∀ token ∈ proper, token.IsProper ∧ 0 ≤ token.offset ∧ token.offset < (text.length : Int) := by
  obtain ⟨found, same, only⟩ := scanner.findings_endToken_of_overshoots .eof overshoots_scanner
    yields_scanner (fun _ _ => rfl) 0 text.toList
  rw [← findings_eq] at same
  have reports : (events text).any isCutEscape = found.any reportsCut := by
    rw [events, Lexer.any_events, same, List.any_append]
    exact Bool.or_false _
  refine ⟨found.filterMap Finding.token?, ?_, ?_⟩
  · rw [reports, tokens, Lexer.tokens, same, List.filterMap_append, String.length_toList,
      Int.zero_add]
    rfl
  · intro token member
    obtain ⟨finding, present, read⟩ := List.mem_filterMap.1 member
    cases finding with
    | event reported => cases read
    | token other =>
        cases read
        have proper := only token present
        refine ⟨proper, offset_of_isProper proper ?_⟩
        rw [same]
        exact List.mem_append_left _ present

/-- A text of two characters, a quotation mark and a backslash, seems to end at place
three. -/
theorem eof_beyond_cut_escape :
    tokens "\"\\" = [.string "" 0, .eof 3] ∧
      ¬ ∃ proper, tokens "\"\\" = proper ++ [.eof "\"\\".length] := by
  have read : scanner.scan 0 ['"', '\\'] =
      some ([.event (.unterminatedEscape 0), .token (.string "" 0)], 3) := rfl
  have found : tokens "\"\\" = [.string "" 0, .eof 3] := by
    rw [tokens, Lexer.tokens, findings_eq]
    have first := scanner.findings_of_some .eof (by decide) read
    rw [List.drop_eq_nil_of_le (by decide), Scanner.findings_nil] at first
    exact congrArg (List.filterMap Finding.token?) first
  refine ⟨found, ?_⟩
  rintro ⟨proper, same⟩
  have last := congrArg List.getLast? (found.symm.trans same)
  rw [List.getLast?_concat] at last
  exact absurd last (by decide)

end TextCursor.Json
