import TextCursor.Proofs.Decimal.Numeral
import TextCursor.Proofs.Json.Scanner

/-!
# The grammar of JSON numbers

A number has an optional sign, digits, an optional fraction and an optional exponent;
digits may be missing behind the point and in the exponent.  What cannot continue a
number changes nothing of what is taken before it (`settled_takeNumber`), and a number
before it is taken as a whole (`IsNumber.takeNumber_append`).
-/

namespace TextCursor.Json

open Decimal

/-- A sign among the allowed ones, or nothing. -/
inductive IsSign (allowed : List Char) : List Char → Prop where
  | absent : IsSign allowed []
  | present {sign : Char} (member : sign ∈ allowed) : IsSign allowed [sign]

/-- A point and possibly digits, or nothing. -/
inductive IsFraction : List Char → Prop where
  | absent : IsFraction []
  | present {digits : List Char} (only : OnlyDigits digits) : IsFraction ('.' :: digits)

/-- The mark of an exponent with an optional sign and possibly digits, or nothing. -/
inductive IsExponent : List Char → Prop where
  | absent : IsExponent []
  | present {mark : Char} {sign digits : List Char} (marked : mark ∈ ['e', 'E'])
      (signed : IsSign ['+', '-'] sign) (only : OnlyDigits digits) :
      IsExponent (mark :: (sign ++ digits))

/-- The forms of numbers. -/
inductive IsNumber : List Char → Prop where
  | intro {sign digits fraction exponent : List Char} (signed : IsSign ['-'] sign)
      (present : digits ≠ []) (only : OnlyDigits digits) (fractional : IsFraction fraction)
      (exponential : IsExponent exponent) :
      IsNumber (sign ++ digits ++ fraction ++ exponent)

/-- The characters that may continue a number. -/
def continuesNumber (char : Char) : Bool :=
  char.isDigit || char ∈ ['.', 'e', 'E', '+', '-']

/-- A text begins with none of the characters that may continue a number. -/
def Stops (chars : List Char) : Prop := ∀ char ∈ chars.head?, continuesNumber char = false

/-- Whether a character may begin a number. -/
def beginsNumber (char : Char) : Bool := char.isDigit || char = '-'

variable {rest : List Char}

theorem IsNumber.first {chars : List Char} (number : IsNumber chars) :
    ∃ first others, chars = first :: others ∧ beginsNumber first = true := by
  obtain ⟨signed, present, only, -, -⟩ := number
  cases signed with
  | absent =>
      rename_i digits _ _
      cases digits with
      | nil => exact absurd rfl present
      | cons digit digits =>
          refine ⟨digit, _, rfl, ?_⟩
          rw [beginsNumber, only digit List.mem_cons_self]
          rfl
  | present member =>
      refine ⟨_, _, rfl, ?_⟩
      rw [List.mem_singleton.1 member]
      rfl

theorem Stops.not_digit (stops : Stops rest) : ∀ char ∈ rest.head?, char.isDigit = false := by
  intro char first
  have stop := stops char first
  simp only [continuesNumber, Bool.or_eq_false_iff] at stop
  exact stop.1

theorem Stops.not_point (stops : Stops rest) : rest.head? ≠ some '.' := by
  intro point
  cases stops '.' point

theorem Stops.not_mem (stops : Stops rest) {allowed : List Char}
    (continuing : allowed.all continuesNumber = true) :
    ∀ char ∈ rest.head?, char ∉ allowed := by
  intro char first member
  have continues := List.all_eq_true.1 continuing char member
  rw [stops char first] at continues
  cases continues

theorem continuesNumber_of_beginsNumber {char : Char} (begins : beginsNumber char = true) :
    continuesNumber char = true := by
  simp only [beginsNumber, Bool.or_eq_true, decide_eq_true_eq] at begins
  rcases begins with digit | rfl
  · rw [continuesNumber, digit]
    rfl
  · rfl

/-- White space does not continue a number. -/
theorem isWhiteSpace_of_continuesNumber {char : Char} (continues : continuesNumber char = true) :
    Text.isWhiteSpace char = false := by
  simp only [continuesNumber, Bool.or_eq_true, decide_eq_true_eq, List.mem_cons,
    List.not_mem_nil, or_false] at continues
  rcases continues with digit | rfl | rfl | rfl | rfl | rfl
  · exact Text.isWhiteSpace_of_isDigit digit
  · decide
  · decide
  · decide
  · decide
  · decide

theorem stops_of_blankFirst (blank : BlankFirst rest) : Stops rest := by
  intro char first
  rw [← Bool.not_eq_true]
  intro continues
  have visible := isWhiteSpace_of_continuesNumber continues
  rw [blank char first] at visible
  cases visible

/-! ## Parts of any text -/

/-- A part of a text is the same in front of the given characters as at the end. -/
def Settled (part : List Char → List Char) (rest : List Char) : Prop :=
  ∀ chars, part (chars ++ rest) = part chars

theorem isPrefix_takeOneOf (allowed chars : List Char) : takeOneOf allowed chars <+: chars := by
  cases chars with
  | nil => exact List.prefix_rfl
  | cons char chars =>
      rw [takeOneOf]
      split
      · exact List.prefix_append [char] chars
      · exact List.nil_prefix

theorem settled_takeOneOf {allowed : List Char} (other : ∀ char ∈ rest.head?, char ∉ allowed) :
    Settled (takeOneOf allowed) rest := by
  intro chars
  cases chars with
  | nil =>
      cases rest with
      | nil => rfl
      | cons char rest => exact if_neg (other char rfl)
  | cons char chars => rfl

theorem settled_takeDigits (stop : ∀ char ∈ rest.head?, char.isDigit = false) :
    Settled (List.takeWhile Char.isDigit) rest := takeWhile_append_of_stop stop

theorem isPrefix_takeFraction (chars : List Char) : takeFraction chars <+: chars := by
  rw [takeFraction.eq_def]
  split
  · exact List.cons_prefix_cons.2 ⟨rfl, List.takeWhile_prefix _⟩
  · exact List.nil_prefix

theorem settled_takeFraction (point : rest.head? ≠ some '.')
    (digit : ∀ char ∈ rest.head?, char.isDigit = false) : Settled takeFraction rest := by
  intro chars
  by_cases pointed : chars.head? = some '.'
  · obtain ⟨digits, rfl⟩ := List.head?_eq_some_iff.1 pointed
    rw [List.cons_append, takeFraction, takeFraction, settled_takeDigits digit]
  · rw [takeFraction_of_other pointed, takeFraction_of_other]
    cases chars with
    | nil => exact point
    | cons char chars => exact pointed

section Both

variable {first second : List Char → List Char}

theorem isPrefix_takeBoth (isPrefix : ∀ chars, first chars <+: chars)
    (isPrefixRest : ∀ chars, second chars <+: chars) (chars : List Char) :
    takeBoth first second chars <+: chars := by
  have join : ∀ {part further all : List Char}, part <+: all →
      further <+: all.drop part.length → part ++ further <+: all := by
    rintro part further _ ⟨behind, rfl⟩ continues
    rw [List.drop_left] at continues
    exact (List.prefix_append_right_inj part).2 continues
  exact join (isPrefix chars) (isPrefixRest _)

theorem settled_takeBoth (isPrefix : ∀ chars, first chars <+: chars) (settled : Settled first rest)
    (settledRest : Settled second rest) : Settled (takeBoth first second) rest := by
  intro chars
  rw [takeBoth, takeBoth, settled, List.drop_append_of_le_length (isPrefix chars).length_le,
    settledRest]

end Both

theorem isPrefix_takeExponent (chars : List Char) : takeExponent chars <+: chars := by
  rw [takeExponent]
  split
  · exact List.nil_prefix
  · exact isPrefix_takeBoth
      (isPrefix_takeBoth (isPrefix_takeOneOf _) (isPrefix_takeOneOf _))
      (fun _ => List.takeWhile_prefix _) chars

theorem settled_takeExponent (stops : Stops rest) : Settled takeExponent rest := by
  have mark : Settled (takeOneOf ['e', 'E']) rest := settled_takeOneOf (stops.not_mem rfl)
  have sign : Settled (takeOneOf ['+', '-']) rest := settled_takeOneOf (stops.not_mem rfl)
  have both := settled_takeBoth (isPrefix_takeBoth (isPrefix_takeOneOf _) (isPrefix_takeOneOf _))
    (settled_takeBoth (isPrefix_takeOneOf _) mark sign) (settled_takeDigits stops.not_digit)
  intro chars
  rw [takeExponent, takeExponent, mark, both]

theorem isPrefix_takeWhole (chars : List Char) : takeWhole chars <+: chars :=
  isPrefix_takeBoth (isPrefix_takeOneOf _) (fun _ => List.takeWhile_prefix _) chars

theorem isPrefix_takeNumber (chars : List Char) : takeNumber chars <+: chars :=
  isPrefix_takeBoth (isPrefix_takeBoth isPrefix_takeWhole isPrefix_takeFraction)
    isPrefix_takeExponent chars

/-- What cannot continue a number changes nothing of what is taken before it. -/
theorem settled_takeNumber (stops : Stops rest) : Settled takeNumber rest := by
  have sign : Settled (takeOneOf ['-']) rest := settled_takeOneOf (stops.not_mem rfl)
  have whole : Settled takeWhole rest :=
    settled_takeBoth (isPrefix_takeOneOf _) sign (settled_takeDigits stops.not_digit)
  have fraction := settled_takeFraction stops.not_point stops.not_digit
  exact settled_takeBoth (isPrefix_takeBoth isPrefix_takeWhole isPrefix_takeFraction)
    (settled_takeBoth isPrefix_takeWhole whole fraction) (settled_takeExponent stops)

theorem settled_wholeDigits (stops : Stops rest) : Settled wholeDigits rest := by
  have sign : Settled (takeOneOf ['-']) rest := settled_takeOneOf (stops.not_mem rfl)
  intro chars
  rw [wholeDigits, wholeDigits, sign,
    List.drop_append_of_le_length (isPrefix_takeOneOf _ _).length_le,
    settled_takeDigits stops.not_digit]

/-! ## Taking the parts -/

theorem takeBoth_append {first second : List Char → List Char} {part further : List Char}
    (takes : first (part ++ (further ++ rest)) = part)
    (takesFurther : second (further ++ rest) = further) :
    takeBoth first second ((part ++ further) ++ rest) = part ++ further := by
  rw [takeBoth, List.append_assoc, takes, List.drop_left, takesFurther]

theorem IsSign.takeOneOf_append {allowed sign : List Char} (signed : IsSign allowed sign)
    (other : ∀ char ∈ rest.head?, char ∉ allowed) :
    takeOneOf allowed (sign ++ rest) = sign := by
  rw [settled_takeOneOf other]
  cases signed with
  | absent => rfl
  | present member => exact if_pos member

theorem IsFraction.takeFraction_append {fraction : List Char} (fractional : IsFraction fraction)
    (point : rest.head? ≠ some '.') (digit : ∀ char ∈ rest.head?, char.isDigit = false) :
    takeFraction (fraction ++ rest) = fraction := by
  rw [settled_takeFraction point digit]
  cases fractional with
  | absent => rfl
  | present only => rw [takeFraction, List.takeWhile_eq_self_iff.2 only]

theorem not_mem_of_onlyDigits {digits allowed : List Char} (only : OnlyDigits digits)
    (others : (allowed.all fun char => !char.isDigit) = true)
    (other : ∀ char ∈ rest.head?, char ∉ allowed) :
    ∀ char ∈ (digits ++ rest).head?, char ∉ allowed := by
  cases digits with
  | nil => exact other
  | cons digit digits =>
      rintro char first member
      cases first
      have digital := only digit List.mem_cons_self
      have different := List.all_eq_true.1 others digit member
      rw [digital] at different
      cases different

theorem IsExponent.takeExponent_append {exponent : List Char}
    (exponential : IsExponent exponent) (stops : Stops rest) :
    takeExponent (exponent ++ rest) = exponent := by
  cases exponential with
  | absent =>
      have none : takeOneOf ['e', 'E'] ([] ++ rest) = [] :=
        IsSign.absent.takeOneOf_append (stops.not_mem (by rfl))
      rw [takeExponent, if_pos none]
  | @present mark sign digits marked signed only =>
      have signStop : ∀ char ∈ (digits ++ rest).head?, char ∉ ['+', '-'] :=
        not_mem_of_onlyDigits only rfl (stops.not_mem rfl)
      have taken : takeOneOf ['e', 'E'] (mark :: (sign ++ digits) ++ rest) = [mark] := if_pos marked
      have some : takeOneOf ['e', 'E'] (mark :: (sign ++ digits) ++ rest) ≠ [] := by
        rw [taken]
        exact List.cons_ne_nil _ _
      have both := takeBoth_append
        (takeBoth_append (show takeOneOf ['e', 'E'] ([mark] ++ (sign ++ (digits ++ rest))) = [mark]
          from if_pos marked) (signed.takeOneOf_append signStop))
        (takeWhile_run only stops.not_digit)
      rw [takeExponent, if_neg some]
      exact both

theorem IsExponent.stops {exponent : List Char} (exponential : IsExponent exponent)
    (stops : Stops rest) :
    ∀ char ∈ (exponent ++ rest).head?, char.isDigit = false ∧ char ≠ '.' := by
  cases exponential with
  | absent =>
      intro char first
      refine ⟨stops.not_digit char first, ?_⟩
      rintro rfl
      exact stops.not_point first
  | present marked signed only =>
      rintro char first
      cases first
      simp only [List.mem_cons, List.not_mem_nil, or_false] at marked
      rcases marked with rfl | rfl <;> decide

theorem IsFraction.stops {fraction : List Char} (fractional : IsFraction fraction)
    (stop : ∀ char ∈ rest.head?, char.isDigit = false) :
    ∀ char ∈ (fraction ++ rest).head?, char.isDigit = false := by
  cases fractional with
  | absent => exact stop
  | present only =>
      rintro char first
      cases first
      decide

/-- A number is taken as a whole before something that cannot continue it. -/
theorem IsNumber.takeNumber_append {chars : List Char} (number : IsNumber chars)
    (stops : Stops rest) :
    takeNumber (chars ++ rest) = chars ∧ wholeDigits (chars ++ rest) ≠ [] := by
  obtain ⟨signed, present, only, fractional, exponential⟩ := number
  rename_i sign digits fraction exponent
  have exponentStop := exponential.stops stops
  have digitStop := fractional.stops fun char first => (exponentStop char first).1
  have pointStop : (exponent ++ rest).head? ≠ some '.' := fun point => (exponentStop _ point).2 rfl
  have signStop : ∀ char ∈ (digits ++ (fraction ++ (exponent ++ rest))).head?, char ∉ ['-'] := by
    cases digits with
    | nil => exact absurd rfl present
    | cons digit digits =>
        rintro char first member
        cases first
        have digital := only digit List.mem_cons_self
        rw [List.mem_singleton.1 member] at digital
        cases digital
  have signTaken := signed.takeOneOf_append signStop
  have digitsTaken := takeWhile_run only digitStop
  constructor
  · have wholeTaken := takeBoth_append signTaken digitsTaken
    have fractionTaken := takeBoth_append wholeTaken
      (fractional.takeFraction_append pointStop fun char first => (exponentStop char first).1)
    exact takeBoth_append fractionTaken (exponential.takeExponent_append stops)
  · rw [wholeDigits, List.append_assoc, List.append_assoc, List.append_assoc, signTaken,
      List.drop_left, digitsTaken]
    exact present

end TextCursor.Json
