import TextCursor.Proofs.Json.Rendering

/-!
# What a string says

A string is read in pieces, each up to the next quotation mark or backslash.  What it says is a
matter of its characters alone, one after the other (`Decodes`): each stands there in one of the
ways to write it, up to a quotation mark that is not escaped, or to the end of the text.  There
is always one thing that the characters say (`decodes_iff`), and it is what is read
(`readString_decodes`).
-/

namespace TextCursor.Json

open Cursor

/-- What the characters behind an opening quotation mark come to. -/
structure Decoded where
  /-- The characters of the string. -/
  value : List Char
  /-- What is wrong with its end. -/
  events : List (Report Token)
  /-- The characters behind it. -/
  behind : List Char

/-- What the characters behind the opening quotation mark at a place say. -/
inductive Decodes (place : Int) : List Char → Decoded → Prop where
  /-- A quotation mark ends the string. -/
  | closed (behind : List Char) : Decodes place ('"' :: behind) ⟨[], [], behind⟩
  /-- The text ends within the string. -/
  | unclosed : Decodes place [] ⟨[], [.unterminatedString place], []⟩
  /-- The text ends right behind a backslash. -/
  | inEscape : Decodes place ['\\'] ⟨[], [.unterminatedEscape place], []⟩
  /-- A character of the string, in one of the ways to write it. -/
  | char {char : Char} {spelled chars : List Char} {rest : Decoded}
      (spells : SpellsChar char spelled) (decodes : Decodes place chars rest) :
      Decodes place (spelled ++ chars) { rest with value := char :: rest.value }

/-! ## Decoding is reading character by character -/

/-- What the reader without a cursor finds behind an opening quotation mark. -/
def decode (place : Int) (chars : List Char) : Decoded where
  value := (scanBody chars).value
  events := ((scanBody chars).ending.event? place).toList
  behind := chars.drop (scanBody chars).count

variable {place : Int}

theorem decode_append {char : Char} {spelled : List Char} (spells : SpellsChar char spelled)
    (chars : List Char) :
    decode place (spelled ++ chars) =
      { decode place chars with value := char :: (decode place chars).value } := by
  simp only [decode, spells.scanBody_append, Decoded.mk.injEq, true_and]
  rw [Nat.add_comm, ← List.drop_drop, List.drop_left]

/-- An escaped character is written in one of the ways to write what it stands for. -/
theorem spellsChar_unescape (char : Char) : SpellsChar (unescape char) ['\\', char] := by
  unfold unescape
  split
  · exact .lineFeed
  · exact .tab
  · exact .carriageReturn
  · rename_i notN notT notR
    refine .escaped ?_
    simp only [List.mem_cons, List.not_mem_nil, or_false, not_or]
    exact ⟨notN, notT, notR⟩

theorem decodes_decode (place : Int) (chars : List Char) :
    Decodes place chars (decode place chars) := by
  fun_induction scanBody chars with
  | case1 => exact .unclosed
  | case2 behind => exact .closed behind
  | case3 => exact .inEscape
  | case4 char chars rest ih =>
      have spells := spellsChar_unescape char
      have decodes := Decodes.char spells ih
      rw [← decode_append spells] at decodes
      exact decodes
  | case5 char chars notQuote notLast notEscape rest ih =>
      have plain : IsPlain char := by
        refine ⟨notQuote, ?_⟩
        intro backslash
        cases chars with
        | nil => exact notLast backslash rfl
        | cons other chars => exact notEscape other chars backslash rfl
      have decodes := Decodes.char (SpellsChar.plain plain) ih
      rw [← decode_append (SpellsChar.plain plain)] at decodes
      exact decodes

/-- What characters say is what is read of them, one by one, and nothing else. -/
theorem decodes_iff {chars : List Char} {decoded : Decoded} :
    Decodes place chars decoded ↔ decoded = decode place chars := by
  constructor
  · intro decodes
    induction decodes with
    | closed behind => rfl
    | unclosed => rfl
    | inEscape => rfl
    | char spells decodes ih => rw [decode_append spells, ← ih]
  · rintro rfl
    exact decodes_decode place chars

/-! ## Reading is decoding -/

/-- Where a quotation mark is next, a string is read: the one that the characters behind it say,
with a warning for an end that is missing, and the cursor is then in front of what they leave.
Everywhere else nothing is read and nothing changes.  All that matters of the registry is that a
quotation mark and a backslash stand for themselves, as they do with the standard classes
(`quoting_of_lexing`). -/
theorem readString_decodes {cursor : Cursor}
    (quote : cursor.registry.textOf? "\"" = some "\"")
    (backslash : cursor.registry.textOf? "\\" = some "\\") (place : Int) :
    (∀ chars, cursor.remaining.toList = '"' :: chars →
      ∃ decoded, (∀ other, Decodes place chars other ↔ other = decoded) ∧
        (readString place cursor).1 =
          some (decoded.events.map .event ++
            [.token (.string (String.ofList decoded.value) place)]) ∧
        (readString place cursor).2.remaining = String.ofList decoded.behind) ∧
    (cursor.remaining.toList.head? ≠ some '"' → readString place cursor = (none, cursor)) := by
  constructor
  · intro chars ahead
    have started := (inside_of_left_pos (left_pos_of_ahead ahead)).1
    obtain ⟨found, advanced⟩ := readString_of_quote ⟨quote, backslash, started⟩ ahead place
    refine ⟨decode place chars, fun other => decodes_iff, ?_, ?_⟩
    · rw [found, decode]
      cases (scanBody chars).ending.event? place <;> rfl
    · have later := advanced.ahead_eq started
      rw [Cursor.ahead, Cursor.ahead, ahead, List.drop_succ_cons] at later
      rw [← String.toList_inj, later, String.toList_ofList]
      rfl
  · intro other
    exact readString_of_other quote other place

/-- A cursor in front of a string with an escaped quotation mark, two backslashes and the escape
of a line feed. -/
def beforeEscapes : Cursor :=
  { ofString "é\"ñ\\\"\\\\\\n\" 1" ⟨1, Registry.standard⟩ with position := 0 }

theorem readString_decodes_escapes :
    beforeEscapes.registry.textOf? "\"" = some "\"" ∧
      beforeEscapes.registry.textOf? "\\" = some "\\" ∧
      (readString 1 beforeEscapes).1 = some [.token (.string "ñ\"\\\n" 1)] ∧
      (readString 1 beforeEscapes).2.remaining = " 1" := by
  have quote : beforeEscapes.registry.textOf? "\"" = some "\"" :=
    Registry.textOf?_of_nameless (by decide) (by decide)
  have backslash : beforeEscapes.registry.textOf? "\\" = some "\\" :=
    Registry.textOf?_of_nameless (by decide) (by decide)
  have ahead : beforeEscapes.ahead =
      '"' :: ['ñ', '\\', '"', '\\', '\\', '\\', 'n', '"', ' ', '1'] := by
    rw [Cursor.ahead_eq]
    rfl
  obtain ⟨decoded, only, found, later⟩ := (readString_decodes quote backslash 1).1 _ ahead
  have decodes : Decodes 1 (['ñ'] ++ (['\\', '"'] ++ (['\\', '\\'] ++ (['\\', 'n'] ++
      '"' :: [' ', '1'])))) ⟨['ñ', '"', '\\', '\n'], [], [' ', '1']⟩ :=
    .char (.plain ⟨by decide, by decide⟩) (.char (.escaped (by decide))
      (.char (.escaped (by decide)) (.char .lineFeed (.closed _))))
  obtain rfl := (only _).1 decodes
  exact ⟨quote, backslash, found, later⟩

end TextCursor.Json
