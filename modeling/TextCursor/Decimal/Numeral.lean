/-!
# Decimal numerals

An unsigned numeral is written with the ten digits and at most one point, and has
at least one digit on either side of the point: `12`, `12.`, `1.2` and `.2`, but
neither the empty text nor a lone point.  Its value is the double nearest to the
number it denotes.
-/

namespace TextCursor.Decimal

/-- The number that a row of digits denotes. -/
def natOfDigits (digits : List Char) : Nat :=
  digits.foldl (fun value digit => 10 * value + (digit.toNat - '0'.toNat)) 0

/-- The value of the numeral with the given digits before and after the point. -/
def valueOfDigits (whole fraction : List Char) : Float :=
  Float.ofScientific (natOfDigits (whole ++ fraction)) true fraction.length

/-- Read a numeral, given as a list of characters. -/
def readChars? (chars : List Char) : Option Float :=
  let whole := chars.takeWhile Char.isDigit
  match chars.dropWhile Char.isDigit with
  | [] => if whole.isEmpty then none else some (valueOfDigits whole [])
  | mark :: fraction =>
      if mark = '.' && fraction.all Char.isDigit && !(whole.isEmpty && fraction.isEmpty) then
        some (valueOfDigits whole fraction)
      else none

/-- Read a numeral. -/
def read? (text : String) : Option Float := readChars? text.toList

/-- The empty text is no numeral. -/
@[simp] theorem read?_empty : read? "" = none := rfl

/-- A lone point is no numeral. -/
@[simp] theorem read?_point : read? "." = none := rfl

end TextCursor.Decimal
