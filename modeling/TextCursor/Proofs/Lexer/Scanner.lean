import TextCursor.Lexer
import TextCursor.Proofs.Cursor.Runs
import TextCursor.Proofs.Lexer.Run

/-!
# Lexers without cursors

A scanner reads tokens off a list of characters: it is given the place where the
list begins and tells how many characters it has read.  A recogniser realises a
scanner if it reads the same off the characters ahead of any cursor and leaves the
cursor behind them, whatever the history holds.  A lexer whose recogniser realises a
scanner then finds in a text what the scanner finds in the list of its characters
(`Lexer.findings_eq`).
-/

namespace TextCursor

variable {τ : Type}

/-- White space comes first, if anything does. -/
def BlankFirst (chars : List Char) : Prop := ∀ char ∈ chars.head?, Text.isWhiteSpace char = true

theorem blankFirst_append {blanks : List Char} (present : blanks ≠ [])
    (blank : ∀ char ∈ blanks, Text.isWhiteSpace char = true) (chars : List Char) :
    BlankFirst (blanks ++ chars) := by
  cases blanks with
  | nil => exact absurd rfl present
  | cons first blanks =>
      intro char same
      cases same
      exact blank first List.mem_cons_self

/-- Where a list ends does not depend on its first character being counted apart. -/
theorem end_cons (place : Int) (char : Char) (chars : List Char) :
    place + 1 + chars.length = place + (char :: chars).length := by
  rw [List.length_cons]
  omega

/-- What is left of a list ends where the list ends. -/
theorem end_drop {count : Nat} {chars : List Char} (inside : count ≤ chars.length)
    (place : Int) : place + count + (chars.drop count).length = place + chars.length := by
  rw [List.length_drop]
  omega

/-- A way to read tokens off a list of characters that begins at a place. -/
structure Scanner (τ : Type) where
  /-- What is read, and the number of characters that are read. -/
  scan : (place : Int) → (chars : List Char) → Option (List (Finding τ) × Nat)
  /-- What is read is not empty. -/
  count_pos : ∀ {place chars findings count},
    scan place chars = some (findings, count) → 0 < count

namespace Scanner

/-- Try one scanner, and if it gives up the other one. -/
def orElse (first second : Scanner τ) : Scanner τ where
  scan place chars := (first.scan place chars).or (second.scan place chars)
  count_pos := by
    intro place chars findings count read
    rcases Option.or_eq_some_iff.1 read with found | ⟨-, found⟩
    · exact first.count_pos found
    · exact second.count_pos found

/-- Everything that a list of characters brings to light: white space is passed over,
a character that begins no token is reported, and a token of its own stands at the
end. -/
def findings (scanner : Scanner τ) (endToken : Int → τ) (place : Int) :
    List Char → List (Finding τ)
  | [] => [.token (endToken place)]
  | char :: chars =>
      if Text.isWhiteSpace char then findings scanner endToken (place + 1) chars
      else
        match _found : scanner.scan place (char :: chars) with
        | some (found, count) =>
            found ++ findings scanner endToken (place + count) ((char :: chars).drop count)
        | none =>
            .event (.characterSkipped char place) ::
              findings scanner endToken (place + 1) chars
termination_by chars => chars.length
decreasing_by
  · exact Nat.lt_succ_self _
  · have positive := scanner.count_pos _found
    simp only [List.length_drop, List.length_cons]
    omega
  · exact Nat.lt_succ_self _

variable (scanner : Scanner τ) (endToken : Int → τ)

@[simp] theorem findings_nil (place : Int) :
    scanner.findings endToken place [] = [.token (endToken place)] := by
  rw [findings]

theorem findings_of_blank {char : Char} (blank : Text.isWhiteSpace char = true) (place : Int)
    (chars : List Char) :
    scanner.findings endToken place (char :: chars) =
      scanner.findings endToken (place + 1) chars := by
  rw [findings, if_pos blank]

theorem findings_of_some {char : Char} {chars : List Char} {place : Int}
    {found : List (Finding τ)} {count : Nat} (visible : Text.isWhiteSpace char = false)
    (read : scanner.scan place (char :: chars) = some (found, count)) :
    scanner.findings endToken place (char :: chars) =
      found ++ scanner.findings endToken (place + count) ((char :: chars).drop count) := by
  rw [findings, if_neg (by rw [visible]; exact Bool.false_ne_true)]
  split
  · rename_i same
    cases read.symm.trans same
    rfl
  · rename_i missing
    cases read.symm.trans missing

theorem findings_of_none {char : Char} {chars : List Char} {place : Int}
    (visible : Text.isWhiteSpace char = false)
    (missing : scanner.scan place (char :: chars) = none) :
    scanner.findings endToken place (char :: chars) =
      .event (.characterSkipped char place) :: scanner.findings endToken (place + 1) chars := by
  rw [findings, if_neg (by rw [visible]; exact Bool.false_ne_true)]
  split
  · rename_i read
    cases missing.symm.trans read
  · rfl

/-- White space brings nothing to light. -/
theorem findings_append_of_blank (blanks chars : List Char)
    (blank : ∀ char ∈ blanks, Text.isWhiteSpace char = true) (place : Int) :
    scanner.findings endToken place (blanks ++ chars) =
      scanner.findings endToken (place + blanks.length) chars := by
  induction blanks generalizing place with
  | nil => simp
  | cons char blanks ih =>
      have rest : ∀ other ∈ blanks, Text.isWhiteSpace other = true := by
        intro other member
        exact blank other (List.mem_cons_of_mem _ member)
      rw [List.cons_append, findings_of_blank _ _ (blank char List.mem_cons_self), ih rest,
        end_cons]

/-- The scanner reads nothing behind the end of a list. -/
def Bounded (scanner : Scanner τ) : Prop :=
  ∀ {place chars found count}, scanner.scan place chars = some (found, count) →
    count ≤ chars.length

theorem Bounded.orElse {first second : Scanner τ} (bounded : first.Bounded)
    (otherwise : second.Bounded) : (first.orElse second).Bounded := by
  intro place chars found count read
  rcases Option.or_eq_some_iff.1 read with early | ⟨-, late⟩
  · exact bounded early
  · exact otherwise late

/-- The tokens that the scanner reads have a property. -/
def Yields (scanner : Scanner τ) (holds : τ → Prop) : Prop :=
  ∀ {place chars found count}, scanner.scan place chars = some (found, count) →
    ∀ token, .token token ∈ found → holds token

theorem Yields.orElse {first second : Scanner τ} {holds : τ → Prop}
    (yields : first.Yields holds) (otherwise : second.Yields holds) :
    (first.orElse second).Yields holds := by
  intro place chars found count read
  rcases Option.or_eq_some_iff.1 read with early | ⟨-, late⟩
  · exact yields early
  · exact otherwise late

/-- The scanner reads nothing behind the end of a list, or goes one place beyond it and
reports that something was cut off there. -/
def Overshoots (scanner : Scanner τ) (cut : Finding τ → Bool) : Prop :=
  ∀ {place chars found count}, scanner.scan place chars = some (found, count) →
    if found.any cut then count = chars.length + 1 else count ≤ chars.length

/-- Behind the tokens that are read stands the token of the end, at the end or one place
beyond it. -/
theorem findings_endToken_of_overshoots {holds : τ → Prop} {cut : Finding τ → Bool}
    (overshoots : scanner.Overshoots cut) (yields : scanner.Yields holds)
    (skips : ∀ char place, cut (.event (.characterSkipped char place)) = false)
    (place : Int) (chars : List Char) :
    ∃ found, scanner.findings endToken place chars =
        found ++ [.token (endToken (place + chars.length + if found.any cut then 1 else 0))] ∧
      ∀ token, .token token ∈ found → holds token := by
  fun_induction findings scanner endToken place chars with
  | case1 place => exact ⟨[], by simp, by simp⟩
  | case2 place char chars blank ih =>
      obtain ⟨found, same, only⟩ := ih
      rw [end_cons place char] at same
      exact ⟨found, same, only⟩
  | case3 place char chars visible first count read ih =>
      obtain ⟨found, same, only⟩ := ih
      have size := overshoots read
      refine ⟨first ++ found, ?_, ?_⟩
      · rw [same, List.append_assoc, List.any_append]
        split at size
        · rename_i reported
          -- behind the end there is nothing more to find
          have finished : (char :: chars).drop count = [] := by
            rw [size]
            exact List.drop_eq_nil_of_le (Nat.le_succ _)
          rw [finished, findings_nil] at same
          obtain rfl : found = [] := by
            have lengths := congrArg List.length same
            simpa using lengths
          rw [finished, reported, size]
          simp only [List.any_nil, List.length_nil, Bool.true_or, if_true, Bool.false_eq_true,
            if_false, Int.natCast_succ, Int.natCast_zero, Int.add_zero, Int.add_assoc]
        · rename_i silent
          rw [Bool.not_eq_true] at silent
          rw [silent, Bool.false_or, end_drop size]
      · intro token member
        rcases List.mem_append.1 member with early | late
        · exact yields read token early
        · exact only token late
  | case4 place char chars visible missing ih =>
      obtain ⟨found, same, only⟩ := ih
      refine ⟨.event (.characterSkipped char place) :: found, ?_, ?_⟩
      · rw [same, List.cons_append, List.any_cons, skips, Bool.false_or, end_cons]
      · intro token member
        rcases List.mem_cons.1 member with event | late
        · cases event
        · exact only token late

end Scanner

/-! ## Recognisers that realise scanners -/

/-- A cursor as lexers use it: names refer to the standard classes, at least one
position can be remembered, and the cursor is not further back than at the start. -/
structure Cursor.Lexing (cursor : Cursor) : Prop where
  registry_eq : cursor.registry = Registry.standard
  room : 0 < cursor.history.capacity
  started : -1 ≤ cursor.position

theorem Cursor.Lexing.advanced {later earlier : Cursor} {count : Nat}
    (lexing : Lexing earlier) (advanced : Advanced later earlier count) : Lexing later := by
  constructor
  · rw [advanced.registry_eq]
    exact lexing.registry_eq
  · rw [advanced.capacity_eq]
    exact lexing.room
  · exact advanced.started lexing.started

open Cursor

/-- On every cursor a recogniser reads what the scanner reads off the characters ahead,
and moves the cursor over them; where the scanner reads nothing, the recogniser gives
up and the cursor is at its place again. -/
def Recogniser.Realises (recogniser : Recogniser τ) (scanner : Scanner τ) : Prop :=
  ∀ (place : Int) (cursor : Cursor), Lexing cursor →
    match scanner.scan place cursor.ahead with
    | some (findings, count) =>
        (recogniser.run place cursor).1 = some findings ∧
          Advanced (recogniser.run place cursor).2 cursor count
    | none =>
        (recogniser.run place cursor).1 = none ∧
          Advanced (recogniser.run place cursor).2 cursor 0

namespace Recogniser.Realises

variable {recogniser first second : Recogniser τ} {scanner : Scanner τ}

theorem some {findings : List (Finding τ)} {count : Nat} {place : Int} {cursor : Cursor}
    (realises : recogniser.Realises scanner) (lexing : Lexing cursor)
    (read : scanner.scan place cursor.ahead = .some (findings, count)) :
    ∃ rest, recogniser.run place cursor = (.some findings, rest) ∧
      Advanced rest cursor count := by
  have result := realises place cursor lexing
  rw [read] at result
  exact ⟨_, Prod.ext result.1 rfl, result.2⟩

theorem none {place : Int} {cursor : Cursor} (realises : recogniser.Realises scanner)
    (lexing : Lexing cursor) (missing : scanner.scan place cursor.ahead = .none) :
    ∃ rest, recogniser.run place cursor = (.none, rest) ∧ Advanced rest cursor 0 := by
  have result := realises place cursor lexing
  rw [missing] at result
  exact ⟨_, Prod.ext result.1 rfl, result.2⟩

/-- What one recogniser leaves to the other one is what it was given. -/
theorem orElse {other : Scanner τ} (realises : first.Realises scanner)
    (otherwise : second.Realises other) :
    (first.orElse second).Realises (scanner.orElse other) := by
  intro place cursor lexing
  cases read : scanner.scan place cursor.ahead with
  | some result =>
      obtain ⟨rest, ran, advanced⟩ := realises.some lexing read
      simp only [Recogniser.orElse, Scanner.orElse, read, ran, Option.some_or]
      exact ⟨trivial, advanced⟩
  | none =>
      obtain ⟨rest, ran, same⟩ := realises.none lexing read
      have later := otherwise place rest (lexing.advanced same)
      rw [same.ahead_eq lexing.started, List.drop_zero] at later
      simp only [Recogniser.orElse, Scanner.orElse, read, ran, Option.none_or]
      cases otherwiseRead : other.scan place cursor.ahead with
      | some result =>
          rw [otherwiseRead] at later
          have advanced := later.2.trans same
          rw [Nat.zero_add] at advanced
          exact ⟨later.1, advanced⟩
      | none =>
          rw [otherwiseRead] at later
          exact ⟨later.1, later.2.trans same⟩

end Recogniser.Realises

/-! ## Lexers -/

namespace Lexer

theorem any_events (lexer : Lexer τ) (text : String) (holds : Report τ → Bool) :
    (lexer.events text).any holds =
      (lexer.findings text).any fun finding => finding.event?.any holds := by
  rw [events, List.any_filterMap]
  rfl

/-- White space is passed over up to the first visible character. -/
theorem advanced_skipBlanks (cursor : Cursor) :
    Advanced (skipBlanks cursor) cursor (cursor.ahead.takeWhile Text.isWhiteSpace).length := by
  rw [skipBlanks, takeWhile_eq (decides_ofChar cursor Text.isWhiteSpace)]
  exact advanced_pass cursor _

theorem skipUnexpected_of_ahead {cursor : Cursor} {char : Char} {chars : List Char}
    (visible : cursor.ahead = char :: chars) (place : Int) :
    ∃ rest, (skipUnexpected place cursor : List (Finding τ) × Cursor) =
      ([.event (.characterSkipped char place)], rest) ∧ Advanced rest cursor 1 := by
  obtain ⟨seen, advanced⟩ := next_of_ahead visible
  refine ⟨cursor.next.2, ?_, advanced⟩
  simp only [skipUnexpected]
  split <;> rename_i next
  · rw [next] at seen ⊢
    cases seen
    rfl
  · rw [next] at seen
    cases seen

/-- One round finds what the scanner finds first, and ends where the scanner goes
on. -/
theorem roundFrom_eq {lexer : Lexer τ} {scanner : Scanner τ}
    (realises : lexer.recogniser.Realises scanner) {start : Cursor} (lexing : Lexing start)
    {char : Char} {chars : List Char} (ahead : start.ahead = char :: chars)
    (visible : Text.isWhiteSpace char = false) :
    ∃ found rest count, lexer.roundFrom start = (found, rest) ∧ Advanced rest start count ∧
      scanner.findings lexer.endToken (start.position + 1) (char :: chars) =
        found ++ scanner.findings lexer.endToken (start.position + 1 + count)
          ((char :: chars).drop count) := by
  cases read : scanner.scan (start.position + 1) start.ahead with
  | some result =>
      obtain ⟨rest, ran, advanced⟩ := realises.some lexing read
      rw [ahead] at read
      refine ⟨result.1, rest, result.2, ?_, advanced, ?_⟩
      · simp only [roundFrom, ran]
      · exact scanner.findings_of_some lexer.endToken visible read
  | none =>
      obtain ⟨same, ran, unmoved⟩ := realises.none lexing read
      have here : same.ahead = char :: chars := by
        rw [unmoved.ahead_eq lexing.started, List.drop_zero, ahead]
      obtain ⟨rest, skipped, advanced⟩ :=
        skipUnexpected_of_ahead (τ := τ) here (start.position + 1)
      rw [ahead] at read
      refine ⟨[.event (.characterSkipped char (start.position + 1))], rest, 1, ?_,
        advanced.trans unmoved, ?_⟩
      · simp only [roundFrom, ran]
        exact skipped
      · exact scanner.findings_of_none lexer.endToken visible read

/-- Passing over white space changes nothing of what there is to find. -/
theorem findings_skipBlanks (lexer : Lexer τ) (scanner : Scanner τ) {cursor : Cursor}
    (started : -1 ≤ cursor.position) :
    scanner.findings lexer.endToken (cursor.position + 1) cursor.ahead =
      scanner.findings lexer.endToken ((skipBlanks cursor).position + 1)
        (skipBlanks cursor).ahead := by
  have advanced := advanced_skipBlanks cursor
  have blank : ∀ char ∈ cursor.ahead.takeWhile Text.isWhiteSpace,
      Text.isWhiteSpace char = true := by
    intro char member
    exact List.mem_takeWhile_imp member
  have passed := scanner.findings_append_of_blank lexer.endToken _
    (cursor.ahead.dropWhile Text.isWhiteSpace) blank (cursor.position + 1)
  rw [List.takeWhile_append_dropWhile] at passed
  rw [passed, advanced.ahead_eq started, drop_length_takeWhile, advanced.position_eq]
  congr 1
  omega

/-- Behind white space stands a visible character. -/
theorem visible_of_skipBlanks {cursor : Cursor} {char : Char} {chars : List Char}
    (started : -1 ≤ cursor.position) (ahead : (skipBlanks cursor).ahead = char :: chars) :
    Text.isWhiteSpace char = false := by
  rw [(advanced_skipBlanks cursor).ahead_eq started, drop_length_takeWhile] at ahead
  have first := List.head?_dropWhile_not Text.isWhiteSpace cursor.ahead
  rw [ahead] at first
  simpa using first

/-- From every cursor a lexer finds what the scanner finds in the characters ahead. -/
theorem scan_eq {lexer : Lexer τ} {scanner : Scanner τ}
    (realises : lexer.recogniser.Realises scanner) (cursor : Cursor) (lexing : Lexing cursor) :
    lexer.scan cursor =
      scanner.findings lexer.endToken (cursor.position + 1) cursor.ahead := by
  have start := lexing.advanced (advanced_skipBlanks cursor)
  fun_induction scan lexer cursor with
  | case1 cursor missing =>
      have finished : (skipBlanks cursor).ahead = [] := by
        rw [← atEnd_iff]
        simpa [round?] using missing
      rw [findings_skipBlanks lexer scanner lexing.started, finished, Scanner.findings_nil]
  | case2 cursor found rest round ih =>
      simp only [round?, Option.ite_none_left_eq_some, Option.some.injEq] at round
      obtain ⟨unfinished, round⟩ := round
      rw [atEnd_iff] at unfinished
      obtain ⟨char, chars, ahead⟩ := List.exists_cons_of_ne_nil unfinished
      have visible := visible_of_skipBlanks lexing.started ahead
      obtain ⟨_, _, count, same, advanced, first⟩ := roundFrom_eq realises start ahead visible
      cases round.symm.trans same
      have later := start.advanced advanced
      rw [findings_skipBlanks lexer scanner lexing.started, ahead, first,
        ih later (later.advanced (advanced_skipBlanks rest)), advanced.ahead_eq start.started,
        ahead, advanced.position_eq]
      congr 2
      omega

/-- A lexer finds in a text what the scanner finds in the list of its characters. -/
theorem findings_eq {lexer : Lexer τ} {scanner : Scanner τ}
    (realises : lexer.recogniser.Realises scanner) (text : String) :
    lexer.findings text = scanner.findings lexer.endToken 0 text.toList := by
  have lexing : Lexing (Cursor.ofString text) := by
    constructor
    · rfl
    · show 0 < Config.historyCapacity {}
      decide
    · exact Int.le_refl _
  have started := ahead_of_started lexing.started
  rw [findings, scan_eq realises _ lexing, started]
  rfl

end Lexer

end TextCursor
