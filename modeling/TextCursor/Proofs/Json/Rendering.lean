import Mathlib.Data.List.Chain
import TextCursor.Proofs.Json.Findings
import TextCursor.Proofs.Json.NumberGrammar

/-!
# Writing tokens and reading them back

A list of JSON tokens can be written in many ways: characters of strings can be
escaped or not, and white space can stand anywhere between tokens.  However it is
written, reading it gives the tokens back, each at the place where it was written,
and there is nothing to warn about.  Only two numbers need white space
between them: the text of every other token begins with a character that cannot
continue a number (`Lexeme.Spelled.first`).
-/

namespace TextCursor.Json

/-! ## Spelling tokens -/

/-- The ways to write a character of a string. -/
inductive SpellsChar : Char → List Char → Prop where
  /-- A plain character can stand for itself. -/
  | plain {char : Char} (plain : IsPlain char) : SpellsChar char [char]
  /-- A character that is no letter of an escape can be escaped. -/
  | escaped {char : Char} (other : char ∉ ['n', 't', 'r']) : SpellsChar char ['\\', char]
  | lineFeed : SpellsChar '\n' ['\\', 'n']
  | tab : SpellsChar '\t' ['\\', 't']
  | carriageReturn : SpellsChar '\r' ['\\', 'r']

/-- The ways to write the characters of a string, each in one of its ways. -/
inductive SpellsChars : List Char → List Char → Prop where
  | nil : SpellsChars [] []
  | cons {char : Char} {chars spelled others : List Char} (first : SpellsChar char spelled)
      (rest : SpellsChars chars others) : SpellsChars (char :: chars) (spelled ++ others)

/-- A token without its place. -/
inductive Lexeme where
  | string (value : String)
  | number (spelling : List Char) (isNumber : IsNumber spelling)
  | boolean (value : Bool)
  | null
  | punctuation (mark : Punctuation)

namespace Lexeme

/-- The token at a place. -/
def token : Lexeme → Int → Token
  | .string value => .string value
  | .number spelling _ => .number (String.ofList spelling)
  | .boolean value => .boolean value
  | .null => .null
  | .punctuation mark => .punctuation mark

/-- Whether the token is a number. -/
def isNumber : Lexeme → Bool
  | .number .. => true
  | _ => false

/-- The ways to write a token. -/
inductive Spelled : Lexeme → List Char → Prop where
  | string {value : String} {spelled : List Char} (chars : SpellsChars value.toList spelled) :
      Spelled (.string value) ('"' :: (spelled ++ ['"']))
  | number {spelling : List Char} (isNumber : IsNumber spelling) :
      Spelled (.number spelling isNumber) spelling
  | boolean (value : Bool) : Spelled (.boolean value) (if value then "true" else "false").toList
  | null : Spelled .null "null".toList
  | punctuation (mark : Punctuation) : Spelled (.punctuation mark) [mark.char]

end Lexeme

/-! ## Reading one token -/

theorem SpellsChar.scanBody_append {char : Char} {spelled : List Char}
    (spells : SpellsChar char spelled) (rest : List Char) :
    scanBody (spelled ++ rest) =
      ⟨char :: (scanBody rest).value, (scanBody rest).ending,
        (scanBody rest).count + spelled.length⟩ := by
  cases spells with
  | plain plain => exact scanBody_cons plain rest
  | escaped other =>
      have same : unescape char = char := by
        rw [unescape]
        · rintro rfl
          exact other (by decide)
        · rintro rfl
          exact other (by decide)
        · rintro rfl
          exact other (by decide)
      rw [List.cons_append, List.cons_append, List.nil_append, scanBody, same]
      rfl
  | lineFeed => rfl
  | tab => rfl
  | carriageReturn => rfl

theorem SpellsChars.scanBody_append {value spelled : List Char}
    (spells : SpellsChars value spelled) (rest : List Char) :
    scanBody (spelled ++ '"' :: rest) = ⟨value, .closed, spelled.length + 1⟩ := by
  induction spells with
  | nil => rfl
  | cons first others ih =>
      rw [List.append_assoc, first.scanBody_append, ih, List.length_append]
      simp only [BodyScan.mk.injEq, true_and]
      omega

/-- A text is no beginning of a list that begins otherwise. -/
theorem prefixLength?_of_other {text : String} {first char : Char} {others rest : List Char}
    (spelled : text.toList = first :: others) (other : first ≠ char) :
    prefixLength? text (char :: rest) = none := by
  simp only [prefixLength?, spelled, List.cons_prefix_cons, other, false_and, and_false, if_false]

theorem prefixLength?_append {text : String} (present : text ≠ "") (rest : List Char) :
    prefixLength? text (text.toList ++ rest) = some text.length :=
  if_pos ⟨present, List.prefix_append _ _⟩

/-- Whether a character begins a punctuation mark or a keyword. -/
def beginsWord (char : Char) : Bool :=
  (Punctuation.ofChar? char).isSome || char ∈ ['t', 'f', 'n']

theorem beginsWord_of_beginsNumber {char : Char} (begins : beginsNumber char = true) :
    beginsWord char = false := by
  have different : ∀ {other : Char}, beginsNumber other = false → ¬ char = other := by
    rintro other no rfl
    rw [begins] at no
    cases no
  have noMark : Punctuation.ofChar? char = none := by
    rw [Punctuation.ofChar?, List.find?_eq_none]
    intro mark member
    have no : beginsNumber mark.char = false := by cases mark <;> decide
    simpa using Ne.symm (different no)
  have noLetter : char ∉ ['t', 'f', 'n'] := by
    simp only [List.mem_cons, List.not_mem_nil, or_false, not_or]
    exact ⟨different (by decide), different (by decide), different (by decide)⟩
  simp only [beginsWord, noMark, noLetter]
  rfl

/-- What begins neither a punctuation mark nor a keyword is a string or a number. -/
theorem scan_of_other {char : Char} (other : beginsWord char = false) (place : Int)
    (rest : List Char) :
    scanner.scan place (char :: rest) =
      (strings.scan place (char :: rest)).or (numbers.scan place (char :: rest)) := by
  simp only [beginsWord, Bool.or_eq_false_iff, Option.isSome_eq_false_iff,
    Option.isNone_iff_eq_none, decide_eq_false_iff_not, List.mem_cons, List.not_mem_nil, or_false,
    not_or] at other
  obtain ⟨noMark, noTrue, noFalse, noNull⟩ := other
  have mark : punctuations.scan place (char :: rest) = none := by
    simp only [punctuations, List.head?_cons, Option.bind_some, noMark, Option.map_none]
  have keyword : keywordTexts.scan place (char :: rest) = none := by
    have truth : prefixLength? "true" (char :: rest) = none :=
      prefixLength?_of_other rfl (Ne.symm noTrue)
    have falsehood : prefixLength? "false" (char :: rest) = none :=
      prefixLength?_of_other rfl (Ne.symm noFalse)
    have null : prefixLength? "null" (char :: rest) = none :=
      prefixLength?_of_other rfl (Ne.symm noNull)
    simp only [keywordTexts, firstFit, keywords, List.findSome?_cons, List.findSome?_nil, truth,
      falsehood, null, Option.map_none]
  simp only [scanner, Scanner.orElse, mark, keyword, Option.none_or]

theorem scan_punctuation (mark : Punctuation) (place : Int) (rest : List Char) :
    scanner.scan place (mark.char :: rest) = some ([.token (.punctuation mark place)], 1) := by
  have found : punctuations.scan place (mark.char :: rest) =
      some ([.token (.punctuation mark place)], 1) := by cases mark <;> rfl
  simp only [scanner, Scanner.orElse, found, Option.some_or]

/-- A keyword is read where no earlier one fits. -/
theorem scan_keyword {text : String} {token : Int → Token} {first : Char}
    {others rest : List Char} (spelled : text.toList = first :: others)
    (noMark : Punctuation.ofChar? first = none) (place : Int)
    (fits : firstFit (prefixLength? · (text.toList ++ rest)) keywords =
      some (token, text.length)) :
    scanner.scan place (text.toList ++ rest) = some ([.token (token place)], text.length) := by
  have mark : punctuations.scan place (text.toList ++ rest) = none := by
    simp only [punctuations, spelled, List.cons_append, List.head?_cons, Option.bind_some, noMark,
      Option.map_none]
  simp only [scanner, Scanner.orElse, mark, keywordTexts, fits, Option.none_or, Option.map_some,
    Option.some_or]

theorem scan_boolean (value : Bool) (place : Int) (rest : List Char) :
    scanner.scan place ((if value then "true" else "false").toList ++ rest) =
      some ([.token (.boolean value place)], (if value then "true" else "false").length) := by
  cases value with
  | true =>
      apply scan_keyword (show "true".toList = ['t', 'r', 'u', 'e'] from rfl) rfl
      simp only [firstFit, keywords, List.findSome?_cons,
        prefixLength?_append (show "true" ≠ "" by decide), Option.map_some]
  | false =>
      apply scan_keyword (show "false".toList = ['f', 'a', 'l', 's', 'e'] from rfl) rfl
      have truth : prefixLength? "true" ("false".toList ++ rest) = none :=
        prefixLength?_of_other rfl (show 't' ≠ 'f' by decide)
      simp only [firstFit, keywords, List.findSome?_cons, truth, Option.map_none,
        prefixLength?_append (show "false" ≠ "" by decide), Option.map_some]

theorem scan_null (place : Int) (rest : List Char) :
    scanner.scan place ("null".toList ++ rest) = some ([.token (.null place)], 4) := by
  apply scan_keyword (show "null".toList = ['n', 'u', 'l', 'l'] from rfl) rfl
  have truth : prefixLength? "true" ("null".toList ++ rest) = none :=
    prefixLength?_of_other rfl (show 't' ≠ 'n' by decide)
  have falsehood : prefixLength? "false" ("null".toList ++ rest) = none :=
    prefixLength?_of_other rfl (show 'f' ≠ 'n' by decide)
  simp only [firstFit, keywords, List.findSome?_cons, truth, falsehood, Option.map_none,
    prefixLength?_append (show "null" ≠ "" by decide), Option.map_some]

theorem scan_string {value spelled : List Char} (spells : SpellsChars value spelled)
    (place : Int) (rest : List Char) :
    scanner.scan place ('"' :: (spelled ++ '"' :: rest)) =
      some ([.token (.string (String.ofList value) place)], spelled.length + 2) := by
  rw [scan_of_other rfl]
  simp only [strings, spells.scanBody_append, Option.some_or]
  rfl

theorem scan_number {spelling rest : List Char} (isNumber : IsNumber spelling)
    (stops : Stops rest) (place : Int) :
    scanner.scan place (spelling ++ rest) =
      some ([.token (.number (String.ofList spelling) place)], spelling.length) := by
  obtain ⟨taken, present⟩ := isNumber.takeNumber_append stops
  have found : numbers.scan place (spelling ++ rest) =
      some ([.token (.number (String.ofList spelling) place)], spelling.length) := by
    simp only [numbers, if_neg present, taken]
  obtain ⟨first, others, rfl, begins⟩ := isNumber.first
  rw [List.cons_append] at found ⊢
  rw [scan_of_other (beginsWord_of_beginsNumber begins), found, strings_scan_of_other]
  · rfl
  · rintro quote
    cases quote
    cases begins

theorem Lexeme.Spelled.scan {lexeme : Lexeme} {spelled rest : List Char}
    (spells : lexeme.Spelled spelled) (stops : lexeme.isNumber = true → Stops rest)
    (place : Int) :
    scanner.scan place (spelled ++ rest) =
      some ([.token (lexeme.token place)], spelled.length) := by
  cases spells with
  | @string value spelled chars =>
      have read := scan_string chars place rest
      rw [String.ofList_toList] at read
      rw [List.cons_append, List.append_assoc, List.singleton_append, read, List.length_cons,
        List.length_append, List.length_singleton]
      rfl
  | number isNumber => exact scan_number isNumber (stops rfl) place
  | boolean value =>
      rw [scan_boolean, String.length_toList]
      rfl
  | null => exact scan_null place rest
  | punctuation mark => exact scan_punctuation mark place rest

/-- The text of a token begins with a visible character, which cannot continue a number
unless it begins one. -/
theorem Lexeme.Spelled.first {lexeme : Lexeme} {spelled : List Char}
    (spells : lexeme.Spelled spelled) :
    ∃ first others, spelled = first :: others ∧ Text.isWhiteSpace first = false ∧
      (lexeme.isNumber = false → continuesNumber first = false) := by
  cases spells with
  | string chars => exact ⟨'"', _, rfl, by decide, fun _ => by decide⟩
  | number isNumber =>
      obtain ⟨first, others, rfl, begins⟩ := isNumber.first
      refine ⟨first, others, rfl, ?_, ?_⟩
      · exact isWhiteSpace_of_continuesNumber (continuesNumber_of_beginsNumber begins)
      · intro other
        cases other
  | boolean value =>
      cases value with
      | true => exact ⟨'t', _, rfl, by decide, fun _ => by decide⟩
      | false => exact ⟨'f', _, rfl, by decide, fun _ => by decide⟩
  | null => exact ⟨'n', _, rfl, by decide, fun _ => by decide⟩
  | punctuation mark =>
      refine ⟨mark.char, [], rfl, ?_, ?_⟩
      · cases mark <;> decide
      · intro
        cases mark <;> decide

/-! ## Writing tokens -/

/-- A token and the way it is written, with the white space before it. -/
structure Piece where
  gap : List Char
  lexeme : Lexeme
  spelled : List Char
  blank : ∀ char ∈ gap, Text.isWhiteSpace char = true
  spells : lexeme.Spelled spelled

namespace Piece

/-- The characters of a piece. -/
def chars (piece : Piece) : List Char := piece.gap ++ piece.spelled

/-- White space separates a number from a number before it. -/
def Separated (before after : Piece) : Prop :=
  before.lexeme.isNumber = true → after.lexeme.isNumber = true → after.gap ≠ []

/-- The tokens of pieces that begin at a place. -/
def tokens : (place : Int) → List Piece → List Token
  | _, [] => []
  | place, piece :: pieces =>
      piece.lexeme.token (place + piece.gap.length) ::
        tokens (place + piece.chars.length) pieces

end Piece

/-- A way to write a list of tokens. -/
structure Rendering where
  pieces : List Piece
  /-- The white space at the end. -/
  trailing : List Char
  blank : ∀ char ∈ trailing, Text.isWhiteSpace char = true
  separated : pieces.IsChain Piece.Separated

namespace Rendering

/-- The text that is written. -/
def text (rendering : Rendering) : String :=
  String.ofList (rendering.pieces.flatMap Piece.chars ++ rendering.trailing)

/-- The tokens that are written, each at its place. -/
def tokens (rendering : Rendering) : List Token := Piece.tokens 0 rendering.pieces

end Rendering

theorem exists_spellsChars (chars : List Char) : ∃ spelled, SpellsChars chars spelled := by
  induction chars with
  | nil => exact ⟨[], .nil⟩
  | cons char chars ih =>
      obtain ⟨others, rest⟩ := ih
      by_cases plain : char ∈ ['"', '\\']
      · have other : char ∉ ['n', 't', 'r'] := by
          simp only [List.mem_cons, List.not_mem_nil, or_false] at plain
          rcases plain with rfl | rfl <;> decide
        exact ⟨_, .cons (.escaped other) rest⟩
      · simp only [List.mem_cons, List.not_mem_nil, or_false, not_or] at plain
        exact ⟨_, .cons (.plain plain) rest⟩

theorem Lexeme.exists_spelled (lexeme : Lexeme) : ∃ spelled, lexeme.Spelled spelled := by
  cases lexeme with
  | string value =>
      obtain ⟨spelled, spells⟩ := exists_spellsChars value.toList
      exact ⟨_, .string spells⟩
  | number spelling isNumber => exact ⟨_, .number isNumber⟩
  | boolean value => exact ⟨_, .boolean value⟩
  | null => exact ⟨_, .null⟩
  | punctuation mark => exact ⟨_, .punctuation mark⟩

/-- Every list of tokens can be written. -/
theorem Rendering.exists_of_lexemes (lexemes : List Lexeme) :
    ∃ rendering : Rendering, rendering.pieces.map Piece.lexeme = lexemes := by
  have pieces : ∃ pieces : List Piece, pieces.map Piece.lexeme = lexemes ∧
      pieces.IsChain Piece.Separated ∧ ∀ piece ∈ pieces.head?, piece.gap ≠ [] := by
    induction lexemes with
    | nil => exact ⟨[], rfl, .nil, by simp⟩
    | cons lexeme lexemes ih =>
        obtain ⟨pieces, same, separated, gap⟩ := ih
        obtain ⟨spelled, spells⟩ := lexeme.exists_spelled
        refine ⟨⟨[' '], lexeme, spelled, List.all_eq_true.1 rfl, spells⟩ :: pieces, ?_, ?_, ?_⟩
        · rw [List.map_cons, same]
        · exact separated.cons fun next first _ _ => gap next first
        · intro piece first
          cases first
          exact List.cons_ne_nil _ _
  obtain ⟨pieces, same, separated, -⟩ := pieces
  exact ⟨⟨pieces, [], by simp, separated⟩, same⟩

/-! ## Reading all tokens -/

/-- What follows a number does not continue it. -/
theorem stops_flatMap {trailing : List Char} {pieces : List Piece}
    (blank : ∀ char ∈ trailing, Text.isWhiteSpace char = true)
    (separated : ∀ piece ∈ pieces.head?, piece.lexeme.isNumber = true → piece.gap ≠ []) :
    Stops (pieces.flatMap Piece.chars ++ trailing) := by
  cases pieces with
  | nil =>
      cases trailing with
      | nil => simp [Stops]
      | cons first trailing =>
          apply stops_of_blankFirst
          intro char same
          cases same
          exact blank first List.mem_cons_self
  | cons piece pieces =>
      rw [List.flatMap_cons, Piece.chars, List.append_assoc, List.append_assoc]
      by_cases gap : piece.gap = []
      · obtain ⟨first, others, spelled, -, stop⟩ := piece.spells.first
        have notNumber : piece.lexeme.isNumber = false := by
          rw [← Bool.not_eq_true]
          intro number
          exact separated piece rfl number gap
        intro char same
        rw [gap, spelled] at same
        cases same
        exact stop notNumber
      · exact stops_of_blankFirst (blankFirst_append gap piece.blank _)

/-- A piece is read up to its end. -/
theorem findings_piece (piece : Piece) {rest : List Char}
    (stops : piece.lexeme.isNumber = true → Stops rest) (place : Int) :
    scanner.findings .eof place (piece.chars ++ rest) =
      .token (piece.lexeme.token (place + piece.gap.length)) ::
        scanner.findings .eof (place + piece.chars.length) rest := by
  have read := piece.spells.scan stops (place + piece.gap.length)
  obtain ⟨first, others, spelled, visible, -⟩ := piece.spells.first
  rw [spelled, List.cons_append] at read
  have found := scanner.findings_of_some .eof visible read
  rw [← List.cons_append, List.drop_left, ← spelled] at found
  rw [Piece.chars, List.append_assoc, scanner.findings_append_of_blank .eof _ _ piece.blank,
    found, List.length_append, Int.natCast_add, Int.add_assoc]
  rfl

/-- One piece is read after the other. -/
theorem findings_pieces {trailing : List Char}
    (blank : ∀ char ∈ trailing, Text.isWhiteSpace char = true) (pieces : List Piece)
    (separated : pieces.IsChain Piece.Separated) (place : Int) :
    scanner.findings .eof place (pieces.flatMap Piece.chars ++ trailing) =
      (Piece.tokens place pieces).map .token ++
        [.token (.eof (place + (pieces.flatMap Piece.chars ++ trailing).length))] := by
  induction pieces generalizing place with
  | nil =>
      have passed := scanner.findings_append_of_blank .eof trailing [] blank place
      rw [List.append_nil, Scanner.findings_nil] at passed
      exact passed
  | cons piece pieces ih =>
      have stops : piece.lexeme.isNumber = true →
          Stops (pieces.flatMap Piece.chars ++ trailing) := by
        intro number
        apply stops_flatMap blank
        intro next first
        exact separated.rel_head? first number
      have size : place + (piece.chars ++ (pieces.flatMap Piece.chars ++ trailing)).length =
          place + piece.chars.length + (pieces.flatMap Piece.chars ++ trailing).length := by
        rw [Int.add_assoc, ← Int.natCast_add, ← List.length_append]
      rw [List.flatMap_cons, List.append_assoc, findings_piece piece stops, ih separated.tail, size]
      rfl

/-- Reading what was written gives the tokens back, and the end of the text behind
them, without a warning. -/
theorem tokens_text (rendering : Rendering) :
    tokens rendering.text = rendering.tokens ++ [.eof rendering.text.length] ∧
      ∀ event ∈ events rendering.text, event.level ≠ .warning := by
  have found : lexer.findings rendering.text =
      (rendering.tokens ++ [Token.eof rendering.text.length]).map .token := by
    rw [findings_eq, Rendering.text, String.toList_ofList, String.length_ofList,
      findings_pieces rendering.blank _ rendering.separated, Int.zero_add, List.map_append]
    rfl
  constructor
  · rw [tokens, Lexer.tokens, found, List.filterMap_map]
    exact List.filterMap_some
  · rw [events, Lexer.events, found, List.filterMap_map]
    have silent : Finding.event? ∘ (Finding.token : Token → Finding Token) = fun _ => none := rfl
    rw [silent, List.filterMap_none]
    intro event member
    cases member

end TextCursor.Json
