import TextCursor.Decimal.Numeral
import TextCursor.Proofs.Lexer.LongestPrefix
import TextCursor.Proofs.Lexer.Run

/-!
# The forms of numerals

A numeral has digits before the point, or behind it, or both, and may do without a
point if it has digits.  These are the texts that are read as numbers
(`isSome_readChars?`).  The longest numeral that a list begins with is all of the
digits, the point and the digits behind it, or there is none (`longest?_eq`).
-/

namespace TextCursor.Decimal

/-- The list holds nothing but digits of ASCII. -/
def OnlyDigits (chars : List Char) : Prop := ∀ char ∈ chars, char.isDigit = true

/-- The forms of numerals. -/
inductive IsNumeral : List Char → Prop where
  /-- Digits. -/
  | whole {digits : List Char} (present : digits ≠ []) (only : OnlyDigits digits) :
      IsNumeral digits
  /-- Digits, a point, and possibly more digits. -/
  | point {digits fraction : List Char} (present : digits ≠ []) (only : OnlyDigits digits)
      (fractionOnly : OnlyDigits fraction) : IsNumeral (digits ++ '.' :: fraction)
  /-- A point and digits. -/
  | fraction {fraction : List Char} (present : fraction ≠ []) (only : OnlyDigits fraction) :
      IsNumeral ('.' :: fraction)

theorem onlyDigits_takeWhile (chars : List Char) : OnlyDigits (chars.takeWhile Char.isDigit) := by
  intro char member
  exact List.mem_takeWhile_imp member

theorem IsNumeral.isSome_readChars? {chars : List Char} (numeral : IsNumeral chars) :
    (readChars? chars).isSome := by
  cases numeral with
  | whole present only =>
      have stop : ∀ char ∈ ([] : List Char).head?, char.isDigit = false := by simp
      have first := takeWhile_run only stop
      have rest := dropWhile_run only stop
      rw [List.append_nil] at first rest
      simp [readChars?, first, rest, present]
  | @point digits fraction present only fractionOnly =>
      have stop : ∀ char ∈ ('.' :: fraction).head?, char.isDigit = false := by simp
      have all := List.all_eq_true.2 fractionOnly
      simp [readChars?, takeWhile_run only stop, dropWhile_run only stop, present, all]
  | @fraction fraction present only =>
      have all := List.all_eq_true.2 only
      simp [readChars?, present, all]

/-- The texts that are read as numbers are the numerals. -/
theorem isSome_readChars?_iff {chars : List Char} :
    (readChars? chars).isSome ↔ IsNumeral chars := by
  constructor
  · intro read
    have only := onlyDigits_takeWhile chars
    rw [← List.takeWhile_append_dropWhile (p := Char.isDigit) (l := chars)]
    simp only [readChars?] at read
    cases rest : chars.dropWhile Char.isDigit with
    | nil =>
        rw [rest] at read
        rw [List.append_nil]
        apply IsNumeral.whole
        · intro empty
          simp [empty] at read
        · exact only
    | cons mark fraction =>
        rw [rest] at read
        simp only [Option.isSome_ite, Bool.and_eq_true, decide_eq_true_eq, List.all_eq_true,
          Bool.not_eq_true', Bool.and_eq_false_iff, List.isEmpty_eq_false_iff] at read
        obtain ⟨⟨rfl, fractionOnly⟩, present⟩ := read
        by_cases empty : chars.takeWhile Char.isDigit = []
        · rw [empty]
          apply IsNumeral.fraction
          · exact present.resolve_left fun digits => digits empty
          · exact fractionOnly
        · exact .point empty only fractionOnly
  · exact IsNumeral.isSome_readChars?

instance : DecidablePred IsNumeral := fun _ => decidable_of_iff _ isSome_readChars?_iff

/-- A text in one of the forms. -/
structure Numeral where
  chars : List Char
  isNumeral : IsNumeral chars

namespace Numeral

/-- The number that a numeral is read as. -/
def value (numeral : Numeral) : Float :=
  (readChars? numeral.chars).get numeral.isNumeral.isSome_readChars?

/-- A text as a numeral, if it is one. -/
def ofChars? (chars : List Char) : Option Numeral :=
  if numeral : IsNumeral chars then some ⟨chars, numeral⟩ else none

/-- The longest numeral that a text begins with. -/
def longest? (chars : List Char) : Option Numeral := longestPrefix? ofChars? chars

@[simp] theorem isSome_ofChars? (chars : List Char) :
    (ofChars? chars).isSome ↔ IsNumeral chars := by
  simp only [ofChars?]
  split <;> rename_i numeral <;> simp [numeral]

theorem ofChars?_eq_some {chars : List Char} {numeral : Numeral}
    (found : ofChars? chars = some numeral) :
    numeral.chars = chars ∧ readChars? chars = some numeral.value := by
  simp only [ofChars?] at found
  split at found
  · cases found
    exact ⟨rfl, (Option.some_get _).symm⟩
  · cases found

theorem ofChars?_eq_none {chars : List Char} (missing : ofChars? chars = none) :
    readChars? chars = none := by
  apply Option.eq_none_iff_forall_ne_some.2
  intro value read
  have numeral := isSome_readChars?_iff.1 (Option.isSome_of_eq_some read)
  rw [← isSome_ofChars?, missing] at numeral
  cases numeral

end Numeral

/-! ## The longest numeral -/

/-- The digits that a text begins with, and if a point comes next, the point and the
digits behind it. -/
def munch (chars : List Char) : List Char :=
  chars.takeWhile Char.isDigit ++
    match chars.dropWhile Char.isDigit with
    | '.' :: rest => '.' :: rest.takeWhile Char.isDigit
    | _ => []

theorem munch_cases (chars : List Char) :
    (∃ rest, chars.dropWhile Char.isDigit = '.' :: rest ∧
      munch chars = chars.takeWhile Char.isDigit ++ '.' :: rest.takeWhile Char.isDigit) ∨
    ((chars.dropWhile Char.isDigit).head? ≠ some '.' ∧
      munch chars = chars.takeWhile Char.isDigit) := by
  rw [munch]
  split
  · rename_i rest point
    exact .inl ⟨rest, point, rfl⟩
  · rename_i other
    rw [List.append_nil]
    refine .inr ⟨?_, rfl⟩
    intro point
    obtain ⟨rest, split⟩ := List.head?_eq_some_iff.1 point
    exact other rest split

theorem isPrefix_munch (chars : List Char) : munch chars <+: chars := by
  have split := List.takeWhile_append_dropWhile (p := Char.isDigit) (l := chars)
  rcases munch_cases chars with ⟨rest, point, munched⟩ | ⟨-, munched⟩
  · conv =>
      rhs
      rw [← split]
    rw [munched, point, List.prefix_append_right_inj, List.prefix_cons_inj]
    exact List.takeWhile_prefix _
  · rw [munched]
    exact List.takeWhile_prefix _

theorem munch_of_point {digits rest : List Char} (only : OnlyDigits digits) :
    munch (digits ++ '.' :: rest) = digits ++ '.' :: rest.takeWhile Char.isDigit := by
  have stop : ∀ char ∈ ('.' :: rest).head?, char.isDigit = false := by simp
  rw [munch, takeWhile_run only stop, dropWhile_run only stop]
  rfl

/-- What begins neither with a digit nor with a point adds nothing to what is munched before
it. -/
theorem munch_append_of_stop {rest : List Char}
    (stop : ∀ char ∈ rest.head?, char.isDigit = false ∧ char ≠ '.') (chars : List Char) :
    munch (chars ++ rest) = munch chars := by
  have noDigit : ∀ char ∈ rest.head?, char.isDigit = false := fun char first =>
    (stop char first).1
  rw [munch, munch, takeWhile_append_of_stop noDigit, List.dropWhile_append]
  cases behind : chars.dropWhile Char.isDigit with
  | nil =>
      cases rest with
      | nil => rfl
      | cons char rest =>
          obtain ⟨other, different⟩ := stop char rfl
          simp [other, different]
  | cons mark others =>
      by_cases point : mark = '.'
      · subst point
        simp [takeWhile_append_of_stop noDigit]
      · simp [point]

/-- A numeral that a text begins with is part of what is munched. -/
theorem IsNumeral.fits_munch {found chars : List Char} (numeral : IsNumeral found)
    (fits : found <+: chars) : found <+: munch chars := by
  obtain ⟨rest, rfl⟩ := fits
  cases numeral with
  | whole present only =>
      rw [munch, List.takeWhile_append_of_pos only, List.append_assoc]
      exact List.prefix_append _ _
  | @point digits fraction present only fractionOnly =>
      rw [List.append_assoc, List.cons_append, munch_of_point only,
        List.takeWhile_append_of_pos fractionOnly, ← List.cons_append, ← List.append_assoc]
      exact List.prefix_append _ _
  | @fraction fraction present only =>
      have nothing : OnlyDigits [] := by simp [OnlyDigits]
      have munched : munch ('.' :: (fraction ++ rest)) = _ := munch_of_point nothing
      rw [List.nil_append, List.takeWhile_append_of_pos only] at munched
      rw [List.cons_append, munched, ← List.cons_append]
      exact List.prefix_append _ _

theorem isNumeral_munch {chars : List Char} (present : munch chars ≠ [])
    (more : munch chars ≠ ['.']) : IsNumeral (munch chars) := by
  have only := onlyDigits_takeWhile chars
  rcases munch_cases chars with ⟨rest, -, munched⟩ | ⟨-, munched⟩
  · rw [munched] at more ⊢
    by_cases empty : chars.takeWhile Char.isDigit = []
    · rw [empty, List.nil_append] at more ⊢
      apply IsNumeral.fraction
      · intro nothing
        rw [nothing] at more
        exact more rfl
      · exact onlyDigits_takeWhile rest
    · exact .point empty only (onlyDigits_takeWhile rest)
  · rw [munched] at present ⊢
    exact .whole present only

theorem not_isNumeral_nil : ¬ IsNumeral [] := by decide

theorem not_isNumeral_point : ¬ IsNumeral ['.'] := by decide

/-- The longest numeral that a text begins with is what is munched, if that is a
numeral; otherwise there is none. -/
theorem Numeral.longest?_eq (chars : List Char) : longest? chars = ofChars? (munch chars) := by
  apply longestPrefix?_eq_of_bound (isPrefix_munch chars)
  intro other fits readable
  rw [isSome_ofChars?] at readable ⊢
  have bounded := readable.fits_munch fits
  refine ⟨bounded, isNumeral_munch ?_ ?_⟩
  · intro empty
    rw [empty, List.prefix_nil] at bounded
    exact not_isNumeral_nil (bounded ▸ readable)
  · intro point
    rw [point] at bounded
    rcases List.prefix_cons_iff.1 bounded with rfl | ⟨rest, rfl, nothing⟩
    · exact not_isNumeral_nil readable
    · rw [List.prefix_nil.1 nothing] at readable
      exact not_isNumeral_point readable

end TextCursor.Decimal
