import TextCursor.Proofs.Json.EndToken
import TextCursor.Proofs.Lexer.Composition

/-!
# JSON texts in two halves

No keyword and no number reaches over white space, and a string does so only if it is
not closed before.  So two texts with white space between them have the tokens of the
first text, and then those of the second one with their places moved behind it
(`tokens_append_blank_append`).  Neither needs to be well-formed; only the first
must not end within a string.
-/

namespace TextCursor.Json

/-- The token of a text that stands further on. -/
def Token.shift (distance : Int) : Token → Token
  | .string value place => .string value (place + distance)
  | .number spelling place => .number spelling (place + distance)
  | .boolean value place => .boolean value (place + distance)
  | .null place => .null (place + distance)
  | .punctuation mark place => .punctuation mark (place + distance)
  | .eof place => .eof (place + distance)

/-- Whether an event reports a string that is not closed. -/
def isUnterminated : Report Token → Bool
  | .unterminatedString _ => true
  | .unterminatedEscape _ => true
  | _ => false

/-- Whether a finding reports a string that is not closed. -/
def reportsUnterminated (finding : Finding Token) : Bool := finding.event?.any isUnterminated

/-! ## The first half -/

/-- Nothing that stands behind a closed string belongs to it. -/
theorem scanBody_append_of_closed {chars : List Char} (closed : (scanBody chars).ending = .closed)
    (rest : List Char) : scanBody (chars ++ rest) = scanBody chars := by
  fun_induction scanBody chars with
  | case1 => cases closed
  | case2 chars => rfl
  | case3 => cases closed
  | case4 char chars behind ih =>
      rw [List.cons_append, List.cons_append, scanBody, ih closed]
  | case5 char chars unquoted notLast notEscape behind ih =>
      have plain : IsPlain char := by
        refine ⟨unquoted, ?_⟩
        rintro rfl
        cases chars with
        | nil => exact notLast rfl rfl
        | cons other chars => exact notEscape other chars rfl rfl
      rw [List.cons_append, scanBody_cons plain, ih closed]

/-- A word without white space is not begun before white space and ended behind it. -/
theorem isPrefix_append_iff {word rest : List Char}
    (visible : ∀ char ∈ word, Text.isWhiteSpace char = false) (blank : BlankFirst rest)
    (chars : List Char) : word <+: chars ++ rest ↔ word <+: chars := by
  induction chars generalizing word with
  | nil =>
      cases word with
      | nil => simp
      | cons first word =>
          constructor
          · rintro ⟨behind, same⟩
            have white := blank first (by rw [List.nil_append] at same; rw [← same]; rfl)
            rw [visible first List.mem_cons_self] at white
            cases white
          · rintro ⟨behind, same⟩
            cases same
  | cons char chars ih =>
      cases word with
      | nil => simp
      | cons first word =>
          rw [List.cons_append, List.cons_prefix_cons, List.cons_prefix_cons,
            ih fun other member => visible other (List.mem_cons_of_mem _ member)]

theorem separable_punctuations : punctuations.Separable reportsUnterminated := by
  intro place char chars rest blank whole
  rfl

theorem visible_keywords :
    ∀ keyword ∈ keywords, ∀ char ∈ keyword.1.toList, Text.isWhiteSpace char = false := by
  intro keyword member
  have visible : (keyword.1.toList.all fun char => !Text.isWhiteSpace char) = true := by
    simp only [keywords, List.mem_cons, List.not_mem_nil, or_false] at member
    rcases member with rfl | rfl | rfl <;> rfl
  intro char inside
  simpa using List.all_eq_true.1 visible char inside

theorem separable_keywordTexts : keywordTexts.Separable reportsUnterminated := by
  intro place char chars rest blank whole
  have same : firstFit (prefixLength? · (char :: chars ++ rest)) keywords =
      firstFit (prefixLength? · (char :: chars)) keywords := by
    apply firstFit_congr
    intro keyword member
    simp only [prefixLength?, isPrefix_append_iff (visible_keywords keyword member) blank]
  simp only [keywordTexts, same]

theorem separable_strings : strings.Separable reportsUnterminated := by
  intro place char chars rest blank whole
  by_cases quote : char = '"'
  · subst quote
    have closed : (scanBody chars).ending = .closed := by
      have silent := whole _ _ rfl
      cases ending : (scanBody chars).ending with
      | closed => rfl
      | unclosed => rw [ending] at silent; cases silent
      | inEscape => rw [ending] at silent; cases silent
    simp only [strings, List.cons_append, scanBody_append_of_closed closed]
  · have other : ∀ behind, (char :: behind).head? ≠ some '"' := fun behind same =>
      quote (Option.some.inj same)
    rw [strings_scan_of_other (other chars), List.cons_append, strings_scan_of_other (other _)]

theorem separable_numbers : numbers.Separable reportsUnterminated := by
  intro place char chars rest blank whole
  have stops := stops_of_blankFirst blank
  simp only [numbers, settled_takeNumber stops (char :: chars),
    settled_wholeDigits stops (char :: chars)]

theorem separable_scanner : scanner.Separable reportsUnterminated :=
  separable_punctuations.orElse
    (separable_keywordTexts.orElse (separable_strings.orElse separable_numbers))

theorem boundedUnless_scanner : scanner.BoundedUnless reportsUnterminated := by
  intro place chars found count read whole
  have size := overshoots_scanner read
  have complete : found.any reportsCut = false := by
    rw [List.any_eq_false] at whole ⊢
    intro finding member cut
    apply whole finding member
    cases finding with
    | token token => cases cut
    | event event =>
        cases event with
        | unterminatedEscape place => rfl
        | _ => cases cut
  rw [complete] at size
  exact size

/-! ## The second half -/

variable {distance : Int}

theorem shifts_punctuations : punctuations.Shifts Token.shift distance := by
  intro place chars
  simp only [punctuations, Option.map_map]
  rfl

theorem shifts_keywordTexts : keywordTexts.Shifts Token.shift distance := by
  intro place chars
  simp only [keywordTexts]
  cases first : firstFit (prefixLength? · chars) keywords with
  | none => rfl
  | some result =>
      obtain ⟨keyword, member, covered⟩ := List.exists_of_findSome?_eq_some first
      obtain ⟨count, -, same⟩ := Option.map_eq_some_iff.1 covered
      cases same
      simp only [keywords, List.mem_cons, List.not_mem_nil, or_false] at member
      rcases member with rfl | rfl | rfl <;> rfl

theorem shifts_strings : strings.Shifts Token.shift distance := by
  intro place chars
  by_cases quote : chars.head? = some '"'
  · obtain ⟨rest, rfl⟩ := List.head?_eq_some_iff.1 quote
    simp only [strings]
    cases (scanBody rest).ending <;> rfl
  · rw [strings_scan_of_other quote, strings_scan_of_other quote]
    rfl

theorem shifts_numbers : numbers.Shifts Token.shift distance := by
  intro place chars
  simp only [numbers]
  split <;> rfl

theorem shifts_scanner : scanner.Shifts Token.shift distance :=
  shifts_punctuations.orElse
    (shifts_keywordTexts.orElse (shifts_strings.orElse shifts_numbers))

/-! ## Both halves -/

/-- If no string of the first text is left open, the text with a second one behind white
space has the findings of both. -/
theorem findings_append_blank_append {before blanks : String} (after : String)
    (present : blanks ≠ "") (blank : ∀ char ∈ blanks.toList, Text.isWhiteSpace char = true)
    (whole : (events before).any isUnterminated = false) :
    ∃ found, lexer.findings before = found ++ [.token (.eof before.length)] ∧
      lexer.findings (before ++ blanks ++ after) =
        found ++
          (lexer.findings after).map (Finding.shift Token.shift (before ++ blanks).length) := by
  have silent : (lexer.findings before).any reportsUnterminated = false := by
    rw [events, Lexer.any_events] at whole
    exact whole
  exact Lexer.findings_append_blank_append realises_scanner separable_scanner
    boundedUnless_scanner shifts_scanner (fun _ => rfl) present blank silent after

/-- If no string of the first text is left open, the text with a second one behind white
space has the tokens of the first one, but for the token of its end, and behind them those of
the second one, moved to their places.  It has the reports of the first one and behind
them those of the second one, moved likewise. -/
theorem tokens_append_blank_append {before blanks : String} (after : String)
    (present : blanks ≠ "") (blank : ∀ char ∈ blanks.toList, Text.isWhiteSpace char = true)
    (closed : ∀ place, .unterminatedString place ∉ events before)
    (complete : ∀ place, .unterminatedEscape place ∉ events before) :
    ∃ proper, tokens before = proper ++ [.eof before.length] ∧
      tokens (before ++ blanks ++ after) =
        proper ++ (tokens after).map (Token.shift (before ++ blanks).length) ∧
      events (before ++ blanks ++ after) =
        events before ++
          (events after).map (Report.shift Token.shift (before ++ blanks).length) := by
  have whole : (events before).any isUnterminated = false := by
    rw [List.any_eq_false]
    intro event member
    cases event with
    | unterminatedString place => exact absurd member (closed place)
    | unterminatedEscape place => exact absurd member (complete place)
    | _ => exact Bool.false_ne_true
  obtain ⟨found, same, joined⟩ := findings_append_blank_append after present blank whole
  exact Lexer.exists_tokens_of_findings same joined

/-- A number that breaks off in its exponent, an em space, and a sign that could go on with
it, before a string that is never closed. -/
theorem tokens_append_blank_append_exponent :
    "\u2003" ≠ "" ∧ (∀ char ∈ "\u2003".toList, Text.isWhiteSpace char = true) ∧
      (∀ place, .unterminatedString place ∉ events "[1e") ∧
      (∀ place, .unterminatedEscape place ∉ events "[1e") ∧
      ∃ proper, tokens "[1e" = proper ++ [.eof "[1e".length] ∧
        tokens ("[1e" ++ "\u2003" ++ "+5\"\\") =
          proper ++ (tokens "+5\"\\").map (Token.shift ("[1e" ++ "\u2003").length) ∧
        events ("[1e" ++ "\u2003" ++ "+5\"\\") =
          events "[1e" ++
            (events "+5\"\\").map (Report.shift Token.shift ("[1e" ++ "\u2003").length) := by
  have bracket : scanner.scan 0 ['[', '1', 'e'] =
      some ([.token (.punctuation .leftBracket 0)], 1) := rfl
  have number : scanner.scan 1 ['1', 'e'] = some ([.token (.number "1e" 1)], 2) := rfl
  have silent : events "[1e" = [] := by
    have first := scanner.findings_of_some .eof (by decide) bracket
    have second := scanner.findings_of_some .eof (by decide) number
    rw [List.drop_eq_nil_of_le (by decide), Scanner.findings_nil] at second
    rw [events, Lexer.events, findings_eq]
    exact congrArg (List.filterMap Finding.event?) (first.trans (congrArg _ second))
  have blank : ∀ char ∈ "\u2003".toList, Text.isWhiteSpace char = true :=
    List.all_eq_true.1 (show "\u2003".toList.all Text.isWhiteSpace = true from rfl)
  have closed : ∀ place, .unterminatedString place ∉ events "[1e" := by simp [silent]
  have complete : ∀ place, .unterminatedEscape place ∉ events "[1e" := by simp [silent]
  exact ⟨by decide, blank, closed, complete,
    tokens_append_blank_append "+5\"\\" (by decide) blank closed complete⟩

end TextCursor.Json
