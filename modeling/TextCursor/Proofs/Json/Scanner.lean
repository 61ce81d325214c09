import TextCursor.Json.Lexer
import TextCursor.Proofs.Lexer.Scanner

/-!
# JSON texts without a cursor

A scanner that reads JSON tokens off a list of characters from the left.  It resolves
the escapes of a string one character at a time, where the lexer takes pieces, and it
looks for the digit behind a sign before it reads the number, where the lexer takes the
sign back.
-/

namespace TextCursor.Json

/-! ## Punctuation and keywords -/

/-- The character that spells a punctuation mark. -/
def Punctuation.char : Punctuation → Char
  | .leftBrace => '\x7b'
  | .rightBrace => '\x7d'
  | .leftBracket => '['
  | .rightBracket => ']'
  | .comma => ','
  | .colon => ':'

/-- The punctuation mark that a character spells. -/
def Punctuation.ofChar? (char : Char) : Option Punctuation :=
  [leftBrace, rightBrace, leftBracket, rightBracket, colon, comma].find? (·.char = char)

/-- Read the punctuation mark at the beginning of a text. -/
def punctuations : Scanner Token where
  scan place chars := (chars.head?.bind Punctuation.ofChar?).map fun mark =>
    ([.token (.punctuation mark place)], 1)
  count_pos := by
    intro place chars found count read
    obtain ⟨mark, -, result⟩ := Option.map_eq_some_iff.1 read
    cases result
    exact Nat.one_pos

/-- The first entry of a table whose name covers something, and how much it covers. -/
def firstFit {β : Type} (covers? : String → Option Nat) (entries : List (String × β)) :
    Option (β × Nat) :=
  entries.findSome? fun entry => (covers? entry.1).map fun count => (entry.2, count)

/-- Read the keyword at the beginning of a text. -/
def keywordTexts : Scanner Token where
  scan place chars := (firstFit (prefixLength? · chars) keywords).map fun (token, count) =>
    ([.token (token place)], count)
  count_pos := by
    intro place chars found count read
    obtain ⟨⟨token, size⟩, first, result⟩ := Option.map_eq_some_iff.1 read
    cases result
    obtain ⟨keyword, -, covered⟩ := List.exists_of_findSome?_eq_some first
    obtain ⟨_, fits, same⟩ := Option.map_eq_some_iff.1 covered
    cases same
    exact (prefixLength?_eq_some fits).1

/-! ## Strings -/

/-- What is read of a string behind its opening quotation mark, without a cursor. -/
structure BodyScan where
  value : List Char
  ending : Ending
  count : Nat

/-- Read a string behind its opening quotation mark, character by character.  The end of
the text counts as the character behind a last backslash. -/
def scanBody : List Char → BodyScan
  | [] => ⟨[], .unclosed, 0⟩
  | '"' :: _ => ⟨[], .closed, 1⟩
  | ['\\'] => ⟨[], .inEscape, 2⟩
  | '\\' :: char :: chars =>
      let rest := scanBody chars
      ⟨unescape char :: rest.value, rest.ending, rest.count + 2⟩
  | char :: chars =>
      let rest := scanBody chars
      ⟨char :: rest.value, rest.ending, rest.count + 1⟩

/-- Read the string at the beginning of a text. -/
def strings : Scanner Token where
  scan place chars :=
    match chars with
    | '"' :: rest =>
        let body := scanBody rest
        some (((body.ending.event? place).map Finding.event).toList ++
          [.token (.string (String.ofList body.value) place)], body.count + 1)
    | _ => none
  count_pos := by
    intro place chars found count read
    split at read
    · cases read
      exact Nat.succ_pos _
    · cases read

/-! ## Numbers -/

/-- The first character of a text, if it is among the given ones. -/
def takeOneOf (allowed : List Char) : List Char → List Char
  | char :: _ => if char ∈ allowed then [char] else []
  | [] => []

/-- A point and the digits behind it, or nothing. -/
def takeFraction : List Char → List Char
  | '.' :: rest => '.' :: rest.takeWhile Char.isDigit
  | _ => []

theorem takeFraction_of_other {chars : List Char} (other : chars.head? ≠ some '.') :
    takeFraction chars = [] := by
  rw [takeFraction]
  rintro rest rfl
  exact other rfl

/-- One part of a text after the other. -/
def takeBoth (first second : List Char → List Char) (chars : List Char) : List Char :=
  first chars ++ second (chars.drop (first chars).length)

/-- The mark of an exponent, a sign and digits, or nothing. -/
def takeExponent (chars : List Char) : List Char :=
  if takeOneOf ['e', 'E'] chars = [] then []
  else
    takeBoth (takeBoth (takeOneOf ['e', 'E']) (takeOneOf ['+', '-']))
      (List.takeWhile Char.isDigit) chars

/-- The sign and the digits of a number. -/
def takeWhole : List Char → List Char :=
  takeBoth (takeOneOf ['-']) (List.takeWhile Char.isDigit)

/-- All that belongs to a number. -/
def takeNumber : List Char → List Char :=
  takeBoth (takeBoth takeWhole takeFraction) takeExponent

/-- The digits behind the sign of a number. -/
def wholeDigits (chars : List Char) : List Char :=
  (chars.drop (takeOneOf ['-'] chars).length).takeWhile Char.isDigit

theorem wholeDigits_of_minus (chars : List Char) :
    wholeDigits ('-' :: chars) = chars.takeWhile Char.isDigit := rfl

theorem wholeDigits_of_other {chars : List Char} (other : chars.head? ≠ some '-') :
    wholeDigits chars = chars.takeWhile Char.isDigit := by
  cases chars with
  | nil => rfl
  | cons char chars =>
      have unsigned : char ∉ ['-'] := fun member =>
        other (congrArg some (List.mem_singleton.1 member))
      rw [wholeDigits, takeOneOf, if_neg unsigned]
      rfl

/-- Read the number at the beginning of a text. -/
def numbers : Scanner Token where
  scan place chars :=
    if wholeDigits chars = [] then none
    else
      some ([.token (.number (String.ofList (takeNumber chars)) place)],
        (takeNumber chars).length)
  count_pos := by
    intro place chars found count read
    split at read
    · cases read
    · rename_i digits
      cases read
      have present := List.length_pos_iff.2 digits
      simp only [wholeDigits] at present
      simp only [takeNumber, takeBoth, takeWhole, List.length_append]
      omega

/-! ## Tokens -/

/-- Read a token of any kind. -/
def scanner : Scanner Token :=
  punctuations.orElse (keywordTexts.orElse (strings.orElse numbers))

/-- What can be read at a place: what is found there, and the number of characters read. -/
inductive Reads (place : Int) : List Char → List (Finding Token) → Nat → Prop where
  | punctuation (mark : Punctuation) (rest : List Char) :
      Reads place (mark.char :: rest) [.token (.punctuation mark place)] 1
  | boolean (value : Bool) (rest : List Char) :
      Reads place ((if value then "true" else "false").toList ++ rest)
        [.token (.boolean value place)] (if value then "true" else "false").length
  | null (rest : List Char) : Reads place ("null".toList ++ rest) [.token (.null place)] 4
  | string (rest : List Char) :
      Reads place ('"' :: rest)
        ((((scanBody rest).ending.event? place).map Finding.event).toList ++
          [.token (.string (String.ofList (scanBody rest).value) place)])
        ((scanBody rest).count + 1)
  | number {chars : List Char} (digits : wholeDigits chars ≠ []) :
      Reads place chars [.token (.number (String.ofList (takeNumber chars)) place)]
        (takeNumber chars).length

theorem reads_of_punctuations {place : Int} {chars : List Char} {found : List (Finding Token)}
    {count : Nat} (read : punctuations.scan place chars = some (found, count)) :
    Reads place chars found count := by
  obtain ⟨mark, spelled, result⟩ := Option.map_eq_some_iff.1 read
  cases result
  obtain ⟨char, first, isMark⟩ := Option.bind_eq_some_iff.1 spelled
  obtain ⟨rest, rfl⟩ := List.head?_eq_some_iff.1 first
  rw [Punctuation.ofChar?] at isMark
  have spells := List.find?_some isMark
  obtain rfl : mark.char = char := of_decide_eq_true spells
  exact .punctuation mark rest

theorem reads_of_keywordTexts {place : Int} {chars : List Char} {found : List (Finding Token)}
    {count : Nat} (read : keywordTexts.scan place chars = some (found, count)) :
    Reads place chars found count := by
  obtain ⟨⟨token, size⟩, first, result⟩ := Option.map_eq_some_iff.1 read
  cases result
  obtain ⟨keyword, member, covered⟩ := List.exists_of_findSome?_eq_some first
  obtain ⟨_, fits, same⟩ := Option.map_eq_some_iff.1 covered
  cases same
  obtain ⟨-, rfl, split⟩ := prefixLength?_eq_some fits
  rw [split]
  simp only [keywords, List.mem_cons, List.not_mem_nil, or_false] at member
  rcases member with rfl | rfl | rfl
  · exact .boolean true _
  · exact .boolean false _
  · exact .null _

/-- The scanner reads a token of one of the kinds. -/
theorem reads_of_scan {place : Int} {chars : List Char} {found : List (Finding Token)}
    {count : Nat} (read : scanner.scan place chars = some (found, count)) :
    Reads place chars found count := by
  simp only [scanner, Scanner.orElse, Option.or_eq_some_iff] at read
  rcases read with mark | ⟨-, keyword | ⟨-, string | ⟨-, number⟩⟩⟩
  · exact reads_of_punctuations mark
  · exact reads_of_keywordTexts keyword
  · simp only [strings] at string
    split at string
    · cases string
      exact .string _
    · cases string
  · simp only [numbers] at number
    split at number
    · cases number
    · rename_i digits
      cases number
      exact .number digits

end TextCursor.Json
