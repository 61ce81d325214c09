import TextCursor.Proofs.Json.Numbers
import TextCursor.Proofs.Json.Strings

/-!
# What is found in JSON texts

Punctuation marks and keywords are looked up in tables of names; each name covers the
text that spells its entry.  With that the lexer finds what the scanner finds
(`findings_eq`).
-/

namespace TextCursor.Json

open Cursor

/-! ## Tables of names -/

variable {β : Type} {cursor : Cursor}

/-- The first entry whose name covers what is ahead is accepted. -/
theorem acceptFirst_eq (registry : cursor.registry = Registry.standard)
    (entries : List (String × β)) :
    acceptFirst cursor entries =
      match firstFit (Registry.standard.covers? · cursor.ahead) entries with
      | some (entry, count) => (some entry, cursor.consume count)
      | none => (none, cursor) := by
  induction entries with
  | nil => rfl
  | cons entry entries ih =>
      simp only [acceptFirst, firstFit, List.findSome?_cons]
      cases covered : Registry.standard.covers? entry.1 cursor.ahead with
      | some count =>
          rw [← registry] at covered
          simp only [accept_of_covers covered, if_true, Option.map_some]
      | none =>
          rw [← registry] at covered
          simp only [accept_of_not_covers covered, Bool.false_eq_true, if_false,
            Option.map_none]
          exact ih

theorem firstFit_congr {covers? others? : String → Option Nat} {entries : List (String × β)}
    (same : ∀ entry ∈ entries, covers? entry.1 = others? entry.1) :
    firstFit covers? entries = firstFit others? entries := by
  induction entries with
  | nil => rfl
  | cons entry entries ih =>
      have rest : ∀ other ∈ entries, covers? other.1 = others? other.1 := by
        intro other member
        exact same other (List.mem_cons_of_mem _ member)
      have others := ih rest
      simp only [firstFit] at others
      simp only [firstFit, List.findSome?_cons, same entry List.mem_cons_self, others]

/-- The names of the punctuation marks cover the characters that spell them. -/
theorem covers?_punctuation (chars : List Char) {entry : String × Punctuation}
    (member : entry ∈ punctuationNames) :
    Registry.standard.covers? entry.1 chars =
      if chars.head? = some entry.2.char then some 1 else none := by
  have literal : ∀ (charClass : CharClass) (text : String) (char : Char),
      charClass.matcher = .literal text → text.toList = [char] →
      Registry.standard.covers? charClass.name chars =
        if chars.head? = some char then some 1 else none := by
    intro charClass text char literal spelled
    rw [Registry.covers?_of_textOf? (Registry.textOf?_of_literal literal),
      prefixLength?_of_toList spelled]
  simp only [punctuationNames, List.mem_cons, List.not_mem_nil, or_false] at member
  rcases member with rfl | rfl | rfl | rfl | rfl | rfl
  · exact literal .leftCurlyBracket "\x7b" '\x7b' rfl rfl
  · exact literal .rightCurlyBracket "\x7d" '\x7d' rfl rfl
  · exact literal .leftSquareBracket "[" '[' rfl rfl
  · exact literal .rightSquareBracket "]" ']' rfl rfl
  · exact literal .colon ":" ':' rfl rfl
  · rw [Registry.covers?_of_textOf? (Registry.textOf?_of_nameless (by decide) (by decide)),
      prefixLength?_of_toList rfl]
    rfl

theorem firstFit_of_char {covers? : String → Option Nat} {first : Option Char}
    {entries : List (String × Punctuation)}
    (covers : ∀ entry ∈ entries,
      covers? entry.1 = if first = some entry.2.char then some 1 else none) :
    firstFit covers? entries =
      (first.bind fun char => (entries.map Prod.snd).find? (·.char = char)).map (·, 1) := by
  induction entries with
  | nil => cases first <;> rfl
  | cons entry entries ih =>
      have rest := ih fun other member => covers other (List.mem_cons_of_mem _ member)
      simp only [firstFit] at rest
      simp only [firstFit, List.findSome?_cons, covers entry List.mem_cons_self, List.map_cons,
        List.find?_cons, rest]
      cases first with
      | none => rfl
      | some char =>
          by_cases same : char = entry.2.char
          · simp [same]
          · simp [same, Ne.symm same]

theorem realises_punctuation : punctuation.Realises punctuations := by
  intro place cursor lexing
  simp only [punctuation, readPunctuation, silently, punctuations,
    acceptFirst_eq lexing.registry_eq]
  rw [firstFit_of_char fun entry member => covers?_punctuation cursor.ahead member]
  have same : (fun char => (punctuationNames.map Prod.snd).find? (·.char = char)) =
      Punctuation.ofChar? := rfl
  rw [same]
  cases cursor.ahead.head?.bind Punctuation.ofChar? with
  | some mark => exact ⟨rfl, advanced_consume cursor 1⟩
  | none => exact ⟨rfl, Advanced.refl cursor⟩

theorem covers?_keyword (chars : List Char) {keyword : String × (Int → Token)}
    (member : keyword ∈ keywords) :
    Registry.standard.covers? keyword.1 chars = prefixLength? keyword.1 chars := by
  simp only [keywords, List.mem_cons, List.not_mem_nil, or_false] at member
  rcases member with rfl | rfl | rfl
  · exact Registry.covers?_of_textOf? (Registry.textOf?_of_nameless (by decide) (by decide)) chars
  · exact Registry.covers?_of_textOf? (Registry.textOf?_of_nameless (by decide) (by decide)) chars
  · exact Registry.covers?_of_textOf? (Registry.textOf?_of_nameless (by decide) (by decide)) chars

theorem realises_keyword : keyword.Realises keywordTexts := by
  intro place cursor lexing
  have same : firstFit (Registry.standard.covers? · cursor.ahead) keywords =
      firstFit (prefixLength? · cursor.ahead) keywords :=
    firstFit_congr fun keyword member => covers?_keyword cursor.ahead member
  simp only [keyword, readKeyword, silently, keywordTexts, acceptFirst_eq lexing.registry_eq, same]
  cases firstFit (prefixLength? · cursor.ahead) keywords with
  | some first => exact ⟨rfl, advanced_consume cursor first.2⟩
  | none => exact ⟨rfl, Advanced.refl cursor⟩

/-! ## The lexer -/

theorem realises_scanner : lexer.recogniser.Realises scanner :=
  realises_punctuation.orElse
    (realises_keyword.orElse (realises_string.orElse realises_number))

/-- The lexer finds in a text what the scanner finds in the list of its characters. -/
theorem findings_eq (text : String) :
    lexer.findings text = scanner.findings .eof 0 text.toList :=
  Lexer.findings_eq realises_scanner text

end TextCursor.Json
