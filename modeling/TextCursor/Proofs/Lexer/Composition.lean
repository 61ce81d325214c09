import TextCursor.Proofs.Lexer.Scanner

/-!
# Texts in two halves

Two halves of a text can be read apart if white space stands between them.  The first
half is read as if it were the whole text, for a scanner that does not look beyond
white space (`Scanner.Separable`).  The second half is read as it would be read
elsewhere, for a scanner on which the place of a text has no influence but on the
places in what is found (`Scanner.Shifts`).  For a lexer that realises such a scanner the
findings of the joined text are then those of its halves
(`Lexer.findings_append_blank_append`).
-/

namespace TextCursor

variable {τ : Type}

/-- The report about a text that stands further on, with tokens moved as given. -/
def Report.shift (move : Int → τ → τ) (distance : Int) : Report τ → Report τ
  | .tokenFound token => .tokenFound (move distance token)
  | .characterSkipped char place => .characterSkipped char (place + distance)
  | .unterminatedString place => .unterminatedString (place + distance)
  | .unterminatedEscape place => .unterminatedEscape (place + distance)

/-- The finding in a text that stands further on, with tokens moved as given. -/
def Finding.shift (move : Int → τ → τ) (distance : Int) : Finding τ → Finding τ
  | .token found => .token (move distance found)
  | .event reported => .event (reported.shift move distance)

namespace Finding

variable (move : Int → τ → τ) (distance : Int)

/-- The tokens of moved findings are the moved tokens. -/
theorem filterMap_token?_shift (found : List (Finding τ)) :
    (found.map (shift move distance)).filterMap token? =
      (found.filterMap token?).map (move distance) := by
  rw [List.filterMap_map, List.map_filterMap]
  congr 1
  funext finding
  cases finding <;> rfl

/-- The events of moved findings are the moved events. -/
theorem filterMap_event?_shift (found : List (Finding τ)) :
    (found.map (shift move distance)).filterMap event? =
      (found.filterMap event?).map (Report.shift move distance) := by
  rw [List.filterMap_map, List.map_filterMap]
  congr 1
  funext finding
  cases finding <;> rfl

end Finding

namespace Scanner

variable {scanner first second : Scanner τ} {cut : Finding τ → Bool}

/-- What the scanner reads in front of white space is what it reads at the end of a text,
unless it reports there that something was cut off. -/
def Separable (scanner : Scanner τ) (cut : Finding τ → Bool) : Prop :=
  ∀ {place char chars rest}, BlankFirst rest →
    (∀ found count, scanner.scan place (char :: chars) = some (found, count) →
      found.any cut = false) →
    scanner.scan place (char :: chars ++ rest) = scanner.scan place (char :: chars)

theorem Separable.orElse (separable : first.Separable cut) (otherwise : second.Separable cut) :
    (first.orElse second).Separable cut := by
  intro place char chars rest blank whole
  simp only [Scanner.orElse] at whole ⊢
  cases read : first.scan place (char :: chars) with
  | some result =>
      rw [read] at whole
      have same := separable blank fun found count early => by
        rw [read] at early
        exact whole found count early
      rw [same, read]
      rfl
  | none =>
      rw [read] at whole
      have same := separable blank fun found count early => by
        rw [read] at early
        cases early
      rw [same, read]
      exact otherwise blank whole

/-- The scanner reads nothing behind the end of a list, unless it reports that something was
cut off there. -/
def BoundedUnless (scanner : Scanner τ) (cut : Finding τ → Bool) : Prop :=
  ∀ {place chars found count}, scanner.scan place chars = some (found, count) →
    found.any cut = false → count ≤ chars.length

/-- In front of white space a text is read as if it were the whole text. -/
theorem findings_append {endToken : Int → τ} (separable : scanner.Separable cut)
    (bounded : scanner.BoundedUnless cut) {rest : List Char} (blank : BlankFirst rest) (place : Int)
    (chars : List Char) (whole : (scanner.findings endToken place chars).any cut = false) :
    ∃ found, scanner.findings endToken place chars =
        found ++ [.token (endToken (place + chars.length))] ∧
      scanner.findings endToken place (chars ++ rest) =
        found ++ scanner.findings endToken (place + chars.length) rest := by
  fun_induction findings scanner endToken place chars with
  | case1 place => exact ⟨[], by simp, by simp⟩
  | case2 place char chars first ih =>
      obtain ⟨found, same, joined⟩ := ih whole
      rw [end_cons place char] at same joined
      refine ⟨found, same, ?_⟩
      rw [List.cons_append, scanner.findings_of_blank endToken first, joined]
  | case3 place char chars visible early count read ih =>
      rw [List.any_append, Bool.or_eq_false_iff] at whole
      obtain ⟨found, same, joined⟩ := ih whole.2
      have inside := bounded read whole.1
      have again : scanner.scan place (char :: (chars ++ rest)) = some (early, count) := by
        rw [← List.cons_append, separable blank, read]
        intro other size twice
        cases read.symm.trans twice
        exact whole.1
      rw [end_drop inside] at same joined
      refine ⟨early ++ found, ?_, ?_⟩
      · rw [same, List.append_assoc]
      · rw [List.cons_append, scanner.findings_of_some endToken (by simpa using visible) again,
          ← List.cons_append, List.drop_append_of_le_length inside, joined, List.append_assoc]
  | case4 place char chars visible missing ih =>
      rw [List.any_cons, Bool.or_eq_false_iff] at whole
      obtain ⟨found, same, joined⟩ := ih whole.2
      have size : place + 1 + (chars.length : Int) = place + (char :: chars).length := by
        rw [List.length_cons]
        omega
      have again : scanner.scan place (char :: (chars ++ rest)) = none := by
        rw [← List.cons_append, separable blank, missing]
        intro other size read
        cases missing.symm.trans read
      rw [size] at same joined
      refine ⟨.event (.characterSkipped char place) :: found, ?_, ?_⟩
      · rw [same, List.cons_append]
      · rw [List.cons_append, scanner.findings_of_none endToken (by simpa using visible) again,
          joined, List.cons_append]

/-- A text that stands further on is read in the same way, with moved places. -/
def Shifts (scanner : Scanner τ) (move : Int → τ → τ) (distance : Int) : Prop :=
  ∀ place chars, scanner.scan (place + distance) chars =
    (scanner.scan place chars).map fun (found, count) =>
      (found.map (Finding.shift move distance), count)

variable {move : Int → τ → τ} {distance : Int}

theorem Shifts.orElse (shifts : first.Shifts move distance)
    (otherwise : second.Shifts move distance) :
    (first.orElse second).Shifts move distance := by
  intro place chars
  simp only [Scanner.orElse, shifts place chars, otherwise place chars, Option.map_or]

/-- In a text that stands further on the same is found, with moved places. -/
theorem findings_shift {endToken : Int → τ} (shifts : scanner.Shifts move distance)
    (ends : ∀ place, move distance (endToken place) = endToken (place + distance))
    (place : Int) (chars : List Char) :
    scanner.findings endToken (place + distance) chars =
      (scanner.findings endToken place chars).map (Finding.shift move distance) := by
  fun_induction findings scanner endToken place chars with
  | case1 place => rw [findings_nil, List.map_singleton, Finding.shift, ends]
  | case2 place char chars blank ih =>
      rw [scanner.findings_of_blank endToken blank, Int.add_right_comm, ih]
  | case3 place char chars visible found count read ih =>
      have moved := shifts place (char :: chars)
      rw [read] at moved
      rw [scanner.findings_of_some endToken (by simpa using visible) moved, Int.add_right_comm, ih,
        List.map_append]
  | case4 place char chars visible missing ih =>
      have moved := shifts place (char :: chars)
      rw [missing] at moved
      rw [scanner.findings_of_none endToken (by simpa using visible) moved, Int.add_right_comm, ih,
        List.map_cons]
      rfl

/-- With white space between them, two texts are read one after the other. -/
theorem findings_append_blank_append {endToken : Int → τ} (separable : scanner.Separable cut)
    (bounded : scanner.BoundedUnless cut) {before blanks : List Char} (present : blanks ≠ [])
    (blank : ∀ char ∈ blanks, Text.isWhiteSpace char = true)
    (whole : (scanner.findings endToken 0 before).any cut = false) (after : List Char) :
    ∃ found, scanner.findings endToken 0 before = found ++ [.token (endToken before.length)] ∧
      scanner.findings endToken 0 (before ++ (blanks ++ after)) =
        found ++ scanner.findings endToken (0 + (before ++ blanks).length) after := by
  obtain ⟨found, same, joined⟩ := findings_append separable bounded
    (blankFirst_append present blank after) 0 before whole
  refine ⟨found, by rw [same, Int.zero_add], ?_⟩
  rw [joined, scanner.findings_append_of_blank endToken blanks after blank, Int.add_assoc,
    ← Int.natCast_add, ← List.length_append]

end Scanner

namespace Lexer

variable {lexer : Lexer τ} {scanner : Scanner τ} {cut : Finding τ → Bool}
  {move : Int → τ → τ} {before blanks : String}

/-- With white space between them, two texts have the findings of both. -/
theorem findings_append_blank_append (realises : lexer.recogniser.Realises scanner)
    (separable : scanner.Separable cut) (bounded : scanner.BoundedUnless cut)
    (shifts : scanner.Shifts move (before ++ blanks).length)
    (ends : ∀ place, move (before ++ blanks).length (lexer.endToken place) =
      lexer.endToken (place + (before ++ blanks).length))
    (present : blanks ≠ "") (blank : ∀ char ∈ blanks.toList, Text.isWhiteSpace char = true)
    (whole : (lexer.findings before).any cut = false) (after : String) :
    ∃ found, lexer.findings before = found ++ [.token (lexer.endToken before.length)] ∧
      lexer.findings (before ++ blanks ++ after) =
        found ++ (lexer.findings after).map (Finding.shift move (before ++ blanks).length) := by
  have some : blanks.toList ≠ [] := fun empty => present (String.toList_eq_nil_iff.1 empty)
  rw [findings_eq realises] at whole
  obtain ⟨found, same, joined⟩ :=
    scanner.findings_append_blank_append separable bounded some blank whole after.toList
  have size : (before.toList ++ blanks.toList).length = (before ++ blanks).length := by
    rw [← String.toList_append, String.length_toList]
  rw [← findings_eq realises, String.length_toList] at same
  rw [size, scanner.findings_shift shifts ends, ← findings_eq realises] at joined
  refine ⟨found, same, ?_⟩
  rw [findings_eq realises, String.toList_append, String.toList_append, List.append_assoc, joined]

/-- If the findings of a text are those of two others, so are its tokens and its events. -/
theorem exists_tokens_of_findings {after whole : String} {found : List (Finding τ)} {endToken : τ}
    {distance : Int} (first : lexer.findings before = found ++ [.token endToken])
    (joined : lexer.findings whole =
      found ++ (lexer.findings after).map (Finding.shift move distance)) :
    ∃ proper, lexer.tokens before = proper ++ [endToken] ∧
      lexer.tokens whole = proper ++ (lexer.tokens after).map (move distance) ∧
      lexer.events whole =
        lexer.events before ++ (lexer.events after).map (Report.shift move distance) := by
  refine ⟨found.filterMap Finding.token?, ?_, ?_, ?_⟩
  · rw [tokens, first, List.filterMap_append]
    rfl
  · rw [tokens, joined, List.filterMap_append, Finding.filterMap_token?_shift]
    rfl
  · rw [events, events, events, joined, first, List.filterMap_append, List.filterMap_append,
      Finding.filterMap_event?_shift]
    exact congrArg (· ++ _) (List.append_nil _).symm

end Lexer

end TextCursor
