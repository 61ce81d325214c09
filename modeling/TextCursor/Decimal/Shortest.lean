/-!
# The shortest decimal that denotes a double

Of all decimals that a reader rounds to a given double, this module finds one with
the fewest digits, and of those the one nearest to the double.  Every quantity is
an exact natural number: a double is an integer multiple of `2 ^ (-1074)`, and the
numbers that round to it form an interval whose ends are multiples of a quarter of
that unit.
-/

namespace TextCursor.Decimal

/-- The decimal `0.d₁d₂…dₙ * 10 ^ point`. -/
structure Digits where
  /-- The digits, the leading one first. -/
  digits : List Char
  /-- The place of the point relative to the leading digit. -/
  point : Int
  deriving DecidableEq

/-- A positive double together with the interval of numbers that round to it, as
numerators over one denominator. -/
structure Interval where
  /-- The lower end. -/
  lower : Nat
  /-- The double itself. -/
  value : Nat
  /-- The upper end. -/
  upper : Nat
  /-- The common denominator. -/
  denominator : Nat
  /-- Whether the two ends round to the double as well. -/
  closed : Bool

namespace Interval

/-- The number of fractions of a significand: two to the power of fifty-two. -/
def fractionSize : Nat := 0x10000000000000

/-- The number of biased exponents: two to the power of eleven. -/
def exponentSize : Nat := 0x800

/-- The interval of the positive finite double with the given bits.  Below a power
of two the next double is half as far away as above it.  The ends belong to the
interval when the significand is even. -/
def ofBits (bits : UInt64) : Interval :=
  let fraction := bits.toNat % fractionSize
  let biased := bits.toNat / fractionSize % exponentSize
  let significand := if biased = 0 then fraction else fractionSize + fraction
  let power := Nat.pow 2 (if biased = 0 then 1 else biased)
  let below := if fraction = 0 && 1 < biased then 1 else 2
  { lower := (4 * significand - below) * power
    value := 4 * significand * power
    upper := (4 * significand + 2) * power
    denominator := Nat.pow 2 1077
    closed := significand % 2 = 0 }

/-- The number of digits of a natural number. -/
def digitCount (number : Nat) : Nat := (Nat.toDigits 10 number).length

/-- The place of the point of the value: the least `point` with
`value < 10 ^ point`. -/
def point (interval : Interval) : Int :=
  if interval.denominator ≤ interval.value then
    digitCount (interval.value / interval.denominator)
  else
    let zeros := digitCount (interval.denominator / interval.value) - 1
    if interval.value * Nat.pow 10 zeros = interval.denominator then 1 - zeros else -zeros

/-- Whether `multiple * 10 ^ exponent` lies in the interval. -/
def holds (interval : Interval) (exponent : Int) (multiple : Nat) : Bool :=
  let scale := Nat.pow 10 (-exponent).toNat
  let number := multiple * (interval.denominator * Nat.pow 10 exponent.toNat)
  let lower := interval.lower * scale
  let upper := interval.upper * scale
  (lower < number && number < upper) ||
    (interval.closed && (number = lower || number = upper))

/-- The multiple of `10 ^ exponent` in the interval that is nearest to the value;
of two equally near ones the larger. -/
def nearest? (interval : Interval) (exponent : Int) : Option Nat :=
  let value := interval.value * Nat.pow 10 (-exponent).toNat
  let unit := interval.denominator * Nat.pow 10 exponent.toNat
  let below := value / unit
  let above := below + 1
  match interval.holds exponent below, interval.holds exponent above with
  | true, true => if value - below * unit < above * unit - value then some below else some above
  | true, false => some below
  | false, true => some above
  | false, false => none

/-- The digits of a number without the zeros at its end. -/
def significantDigits (number : Nat) : List Char :=
  ((Nat.toDigits 10 number).reverse.dropWhile (· = '0')).reverse

/-- The decimal with the given number of digits in the interval, if there is one. -/
def withDigits? (interval : Interval) (count : Nat) : Option Digits :=
  let exponent := interval.point - count
  (interval.nearest? exponent).map fun multiple =>
    { digits := significantDigits multiple
      point := exponent + digitCount multiple }

/-- The shortest decimal in the interval; seventeen digits always suffice. -/
def shortest (interval : Interval) : Digits :=
  ((List.range 17).findSome? fun count => interval.withDigits? (count + 1)).getD ⟨['0'], 1⟩

end Interval

end TextCursor.Decimal
