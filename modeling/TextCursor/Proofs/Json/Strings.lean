import TextCursor.Proofs.Cursor.StandardClass
import TextCursor.Proofs.Json.Scanner

/-!
# Strings of JSON texts

A piece of a string is a run of plain characters, so reading pieces and escapes in
turn reads the string character by character (`reads_readBody`).
-/

namespace TextCursor.Json

open Cursor

/-- A cursor on which strings can be read: a quotation mark and a backslash stand for themselves,
and the cursor is not further back than at the start. -/
structure Quoting (cursor : Cursor) : Prop where
  quote : cursor.registry.textOf? "\"" = some "\""
  backslash : cursor.registry.textOf? "\\" = some "\\"
  started : -1 ≤ cursor.position

theorem Quoting.advanced {later earlier : Cursor} {count : Nat} (quoting : Quoting earlier)
    (advanced : Advanced later earlier count) : Quoting later := by
  constructor
  · rw [advanced.registry_eq]
    exact quoting.quote
  · rw [advanced.registry_eq]
    exact quoting.backslash
  · exact advanced.started quoting.started

variable {cursor : Cursor}

theorem searchChar_stringStop (char : Char) :
    stringStop.searchChar char = (decide ('"' = char) || decide ('\\' = char)) := by
  have spelled : stringStop =
      Pattern.Expr.pattern (.set { members := [.single '"', .single '\\'] }) "[\"\\\\]" := rfl
  rw [spelled, Pattern.Expr.searchChar_set]
  simp [Pattern.CharSet.contains, Pattern.CharSet.lists]

/-- The characters that stand for themselves in a string. -/
def IsPlain (char : Char) : Prop := char ≠ '"' ∧ char ≠ '\\'

theorem scanBody_cons {char : Char} (plain : IsPlain char) (chars : List Char) :
    scanBody (char :: chars) =
      ⟨char :: (scanBody chars).value, (scanBody chars).ending, (scanBody chars).count + 1⟩ := by
  rw [scanBody]
  · exact plain.1
  · rintro rfl rfl
    exact plain.2 rfl
  · intro other rest escaped
    exact absurd escaped plain.2

theorem scanBody_append {run : List Char} (plain : ∀ char ∈ run, IsPlain char)
    (rest : List Char) :
    scanBody (run ++ rest) =
      ⟨run ++ (scanBody rest).value, (scanBody rest).ending,
        run.length + (scanBody rest).count⟩ := by
  induction run with
  | nil => simp
  | cons char run ih =>
      have others : ∀ other ∈ run, IsPlain other := by
        intro other member
        exact plain other (List.mem_cons_of_mem _ member)
      rw [List.cons_append, scanBody_cons (plain char List.mem_cons_self), ih others]
      simp only [List.cons_append, List.length_cons, Nat.add_right_comm]

/-- A piece is a run of plain characters, and ends before something else. -/
structure PieceSplit (cursor : Cursor) (run rest : List Char) : Prop where
  ahead_eq : cursor.ahead = run ++ rest
  plain : ∀ char ∈ run, IsPlain char
  stop : ∀ char ∈ rest.head?, ¬ IsPlain char
  text_eq : (readPiece cursor).1 = String.ofList run
  advanced : Advanced (readPiece cursor).2 cursor run.length
  behind : (readPiece cursor).2.ahead = rest

theorem exists_pieceSplit (quoting : Quoting cursor) :
    ∃ run rest, PieceSplit cursor run rest := by
  have piece : readPiece cursor = _ := takeUntil_eq (decides_pattern cursor stringStop)
  have advanced := advanced_pass cursor
    (cursor.ahead.takeWhile fun char => !stringStop.searchChar char).length
  refine ⟨cursor.ahead.takeWhile fun char => !stringStop.searchChar char,
    cursor.ahead.dropWhile fun char => !stringStop.searchChar char, ?_⟩
  constructor
  · exact List.takeWhile_append_dropWhile.symm
  · intro char member
    have different := List.mem_takeWhile_imp member
    simp only [searchChar_stringStop, Bool.not_eq_true', Bool.or_eq_false_iff,
      decide_eq_false_iff_not] at different
    exact ⟨Ne.symm different.1, Ne.symm different.2⟩
  · intro char member plain
    have stop := List.head?_dropWhile_not (fun char => !stringStop.searchChar char) cursor.ahead
    rw [Option.mem_def.1 member] at stop
    simp [searchChar_stringStop, Ne.symm plain.1, Ne.symm plain.2] at stop
  · rw [piece]
  · rw [piece]
    exact advanced
  · rw [piece, advanced.ahead_eq quoting.started, drop_length_takeWhile]

theorem quoting_readPiece (quoting : Quoting cursor) : Quoting (readPiece cursor).2 := by
  obtain ⟨run, rest, piece⟩ := exists_pieceSplit quoting
  exact quoting.advanced piece.advanced

theorem stop_readPiece (quoting : Quoting cursor) :
    ∀ char ∈ (readPiece cursor).2.ahead.head?, ¬ IsPlain char := by
  obtain ⟨run, rest, piece⟩ := exists_pieceSplit quoting
  rw [piece.behind]
  exact piece.stop

/-- The end of the text counts as a character when the cursor moves. -/
theorem next_of_last (quoting : Quoting cursor) {char : Char} (last : cursor.ahead = [char]) :
    (cursor.consume 1).next.1 = none ∧ Advanced (cursor.consume 1).next.2 cursor 2 := by
  have started := quoting.started
  have size := length_ahead cursor
  rw [last, left_eq cursor started, List.length_singleton] at size
  have reached : (cursor.consume 1).position + 1 = cursor.source.length := by
    rw [position_consume]
    omega
  have before : (cursor.consume 1).position < (cursor.consume 1).source.length := by
    rw [source_consume]
    omega
  have moved : (cursor.consume 1).next.2 =
      { cursor.consume 1 with position := (cursor.consume 1).position + 1 } := if_pos before
  constructor
  · show (cursor.consume 1).next.2.value? = none
    rw [moved, value?, Source.charAt?_eq, reached, source_consume, Source.length_eq]
    simp
  · rw [moved]
    refine ⟨rfl, rfl, rfl, ?_⟩
    simp only [position_consume]
    omega

theorem accept_quote (quote : cursor.registry.textOf? "\"" = some "\"") :
    cursor.accept "\"" =
      if cursor.ahead.head? = some '"' then (true, cursor.consume 1) else (false, cursor) :=
  accept_of_char quote rfl

theorem accept_quote_eq_true (quoting : Quoting cursor)
    (accepted : (cursor.accept "\"").1 = true) :
    ∃ chars, cursor.ahead = '"' :: chars ∧ (cursor.accept "\"").2 = cursor.consume 1 := by
  rw [accept_quote quoting.quote] at accepted ⊢
  split at accepted
  · rename_i quote
    obtain ⟨chars, ahead⟩ := List.head?_eq_some_iff.1 quote
    rw [if_pos quote]
    exact ⟨chars, ahead, rfl⟩
  · cases accepted

theorem accept_quote_ne_true (quoting : Quoting cursor)
    (refused : ¬ (cursor.accept "\"").1 = true) :
    cursor.ahead.head? ≠ some '"' ∧ (cursor.accept "\"").2 = cursor := by
  rw [accept_quote quoting.quote] at refused ⊢
  split at refused
  · exact absurd rfl refused
  · rename_i other
    rw [if_neg other]
    exact ⟨other, rfl⟩

theorem accept_backslash (quoting : Quoting cursor) :
    cursor.accept "\\" =
      if cursor.ahead.head? = some '\\' then (true, cursor.consume 1) else (false, cursor) :=
  accept_of_char quoting.backslash rfl

theorem readEscape_of_other (quoting : Quoting cursor) (other : cursor.ahead.head? ≠ some '\\') :
    readEscape cursor = (none, cursor) := by
  simp only [readEscape, accept_backslash quoting, if_neg other, Bool.false_eq_true, if_false]

theorem readEscape_of_char (quoting : Quoting cursor) {char : Char} {chars : List Char}
    (escape : cursor.ahead = '\\' :: char :: chars) :
    (readEscape cursor).1 = some (some char) ∧ Advanced (readEscape cursor).2 cursor 2 := by
  have first : cursor.ahead.head? = some '\\' := by rw [escape]; rfl
  obtain ⟨seen, advanced⟩ := next_of_ahead (ahead_consume_one escape)
  simp only [readEscape, accept_backslash quoting, if_pos first, if_true, seen]
  exact ⟨trivial, advanced.trans (advanced_consume cursor 1)⟩

theorem readEscape_of_last (quoting : Quoting cursor) (last : cursor.ahead = ['\\']) :
    (readEscape cursor).1 = some none ∧ Advanced (readEscape cursor).2 cursor 2 := by
  have first : cursor.ahead.head? = some '\\' := by rw [last]; rfl
  obtain ⟨unseen, advanced⟩ := next_of_last quoting last
  simp only [readEscape, accept_backslash quoting, if_pos first, if_true, unseen]
  exact ⟨trivial, advanced⟩

/-- Behind a piece of a string that is not closed stands an escape, or the end of the
text. -/
theorem readEscape_cases (quoting : Quoting cursor)
    (stop : ∀ char ∈ cursor.ahead.head?, ¬ IsPlain char)
    (unclosed : cursor.ahead.head? ≠ some '"') :
    (cursor.ahead = [] ∧ readEscape cursor = (none, cursor)) ∨
    (cursor.ahead = ['\\'] ∧ (readEscape cursor).1 = some none ∧
      Advanced (readEscape cursor).2 cursor 2) ∨
    ∃ char chars, cursor.ahead = '\\' :: char :: chars ∧
      (readEscape cursor).1 = some (some char) ∧ Advanced (readEscape cursor).2 cursor 2 := by
  cases ahead : cursor.ahead with
  | nil =>
      refine .inl ⟨rfl, readEscape_of_other quoting ?_⟩
      simp [ahead]
  | cons first chars =>
      have escape : first = '\\' := by
        apply Classical.byContradiction
        intro different
        rw [ahead] at stop unclosed
        refine stop first rfl ⟨?_, different⟩
        rintro rfl
        exact unclosed rfl
      subst escape
      cases chars with
      | nil => exact .inr (.inl ⟨rfl, readEscape_of_last quoting ahead⟩)
      | cons char chars => exact .inr (.inr ⟨char, chars, rfl, readEscape_of_char quoting ahead⟩)

/-- What comes behind a piece, once it is known not to be a quotation mark. -/
theorem readEscape_of_refused (quoting : Quoting cursor)
    (refused : ¬ ((readPiece cursor).2.accept "\"").1 = true)
    {result : Option (Option Char) × Cursor}
    (found : readEscape ((readPiece cursor).2.accept "\"").2 = result) :
    ((readPiece cursor).2.ahead = [] ∧ result = (none, (readPiece cursor).2)) ∨
    ((readPiece cursor).2.ahead = ['\\'] ∧ result.1 = some none ∧
      Advanced result.2 (readPiece cursor).2 2) ∨
    ∃ char chars, (readPiece cursor).2.ahead = '\\' :: char :: chars ∧
      result.1 = some (some char) ∧ Advanced result.2 (readPiece cursor).2 2 := by
  have behind := quoting_readPiece quoting
  obtain ⟨unclosed, same⟩ := accept_quote_ne_true behind refused
  rw [same] at found
  rw [← found]
  exact readEscape_cases behind (stop_readPiece quoting) unclosed

/-- What was read of a string with a cursor is what was read without, behind a part that
was read before. -/
structure Body.Reads (body : Body) (earlier : String) (cursor : Cursor) (scan : BodyScan) :
    Prop where
  value_eq : body.value = earlier ++ String.ofList scan.value
  ending_eq : body.ending = scan.ending
  advanced : Advanced body.cursor cursor scan.count

/-- A piece can be counted to the part that was read before. -/
theorem Body.Reads.of_piece (quoting : Quoting cursor) {body : Body} {earlier : String}
    (reads : body.Reads (earlier ++ (readPiece cursor).1) (readPiece cursor).2
      (scanBody (readPiece cursor).2.ahead)) :
    body.Reads earlier cursor (scanBody cursor.ahead) := by
  obtain ⟨run, rest, piece⟩ := exists_pieceSplit quoting
  rw [piece.behind] at reads
  rw [piece.ahead_eq, scanBody_append piece.plain]
  constructor
  · rw [reads.value_eq, piece.text_eq, String.ofList_append, String.append_assoc]
  · exact reads.ending_eq
  · exact reads.advanced.trans piece.advanced

/-- An escaped character can be counted to the part that was read before. -/
theorem Body.Reads.of_escape {body : Body} {earlier : String} {later : Cursor} {char : Char}
    {chars : List Char} (ahead : cursor.ahead = '\\' :: char :: chars)
    (advanced : Advanced later cursor 2)
    (reads : body.Reads (earlier.push (unescape char)) later (scanBody chars)) :
    body.Reads earlier cursor (scanBody cursor.ahead) := by
  rw [ahead, scanBody]
  constructor
  · rw [reads.value_eq, ← String.toList_inj]
    simp
  · exact reads.ending_eq
  · rw [Nat.add_comm]
    exact reads.advanced.trans advanced

/-- A round that ends a string has read the rest of it character by character. -/
theorem reads_of_bodyRound (quoting : Quoting cursor) {earlier : String} {body : Body}
    (ended : bodyRound earlier cursor = .inl body) :
    body.Reads earlier cursor (scanBody cursor.ahead) := by
  apply Body.Reads.of_piece quoting
  simp only [bodyRound] at ended
  split at ended
  · rename_i accepted
    cases ended
    obtain ⟨chars, ahead, moved⟩ := accept_quote_eq_true (quoting_readPiece quoting) accepted
    rw [ahead]
    refine ⟨(String.append_empty).symm, rfl, ?_⟩
    show Advanced ((readPiece cursor).2.accept "\"").2 _ 1
    rw [moved]
    exact advanced_consume _ 1
  · rename_i refused
    split at ended <;> rename_i found <;> cases ended <;>
      rcases readEscape_of_refused quoting refused found with
        ⟨ahead, escape⟩ | ⟨ahead, escape, advanced⟩ | ⟨char, chars, -, escape, -⟩ <;> cases escape
    · rw [ahead]
      exact ⟨(String.append_empty).symm, rfl, Advanced.refl _⟩
    · rw [ahead]
      exact ⟨(String.append_empty).symm, rfl, advanced⟩

/-- A round that does not end a string has read a piece and the escape behind it. -/
theorem exists_escape_of_bodyRound (quoting : Quoting cursor) {earlier value : String}
    {later : Cursor} (found : bodyRound earlier cursor = .inr (value, later)) :
    ∃ char chars, (readPiece cursor).2.ahead = '\\' :: char :: chars ∧
      Advanced later (readPiece cursor).2 2 ∧
      value = (earlier ++ (readPiece cursor).1).push (unescape char) := by
  simp only [bodyRound] at found
  split at found
  · cases found
  · rename_i refused
    split at found <;> rename_i escaped <;> cases found
    rcases readEscape_of_refused quoting refused escaped with
      ⟨-, escape⟩ | ⟨-, escape, -⟩ | ⟨char, chars, ahead, escape, advanced⟩ <;> cases escape
    exact ⟨_, chars, ahead, advanced, rfl⟩

/-- Reading a string in pieces reads it character by character. -/
theorem reads_readBody (earlier : String) (cursor : Cursor) (quoting : Quoting cursor) :
    (readBody earlier cursor).Reads earlier cursor (scanBody cursor.ahead) := by
  fun_induction readBody earlier cursor with
  | case1 earlier cursor body ended => exact reads_of_bodyRound quoting ended
  | case2 earlier cursor value later found ih =>
      obtain ⟨char, chars, ahead, advanced, rfl⟩ := exists_escape_of_bodyRound quoting found
      have behind := quoting_readPiece quoting
      have rest := advanced.ahead_eq behind.started
      rw [ahead] at rest
      have reads := ih (behind.advanced advanced)
      rw [show later.ahead = chars from rest] at reads
      exact (reads.of_escape ahead advanced).of_piece quoting

/-! ## Whole strings -/

theorem readString_of_quote (quoting : Quoting cursor) {chars : List Char}
    (ahead : cursor.ahead = '"' :: chars) (place : Int) :
    (readString place cursor).1 =
        some ((((scanBody chars).ending.event? place).map Finding.event).toList ++
          [.token (.string (String.ofList (scanBody chars).value) place)]) ∧
      Advanced (readString place cursor).2 cursor ((scanBody chars).count + 1) := by
  have opened : cursor.ahead.head? = some '"' := by rw [ahead]; rfl
  have quote := accept_quote quoting.quote
  rw [if_pos opened] at quote
  have moved := advanced_consume cursor 1
  have reads := reads_readBody "" _ (quoting.advanced moved)
  rw [ahead_consume_one ahead] at reads
  simp only [readString, quote, if_true, reads.ending_eq, reads.value_eq, String.empty_append]
  refine ⟨trivial, ?_⟩
  rw [Nat.add_comm]
  exact reads.advanced.trans moved

theorem readString_of_other (quote : cursor.registry.textOf? "\"" = some "\"")
    (other : cursor.ahead.head? ≠ some '"') (place : Int) :
    readString place cursor = (none, cursor) := by
  simp only [readString, accept_quote quote, if_neg other, Bool.false_eq_true, if_false]

theorem quoting_of_registry (registry : cursor.registry = Registry.standard)
    (started : -1 ≤ cursor.position) : Quoting cursor where
  quote := by
    rw [registry]
    exact Registry.textOf?_of_nameless (by decide) (by decide)
  backslash := by
    rw [registry]
    exact Registry.textOf?_of_nameless (by decide) (by decide)
  started := started

theorem quoting_of_lexing (lexing : Lexing cursor) : Quoting cursor :=
  quoting_of_registry lexing.registry_eq lexing.started

theorem strings_scan_of_other {chars : List Char} (other : chars.head? ≠ some '"')
    (place : Int) : strings.scan place chars = none := by
  simp only [strings]
  split
  · exact absurd rfl other
  · rfl

theorem realises_string : string.Realises strings := by
  intro place cursor lexing
  have quoting := quoting_of_lexing lexing
  by_cases opened : cursor.ahead.head? = some '"'
  · obtain ⟨chars, ahead⟩ := List.head?_eq_some_iff.1 opened
    rw [ahead]
    exact readString_of_quote quoting ahead place
  · rw [strings_scan_of_other opened]
    simp only [string, readString_of_other quoting.quote opened]
    exact ⟨trivial, Advanced.refl cursor⟩

end TextCursor.Json
