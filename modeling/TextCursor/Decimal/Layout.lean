import TextCursor.Decimal.Shortest

/-!
# Writing a double

A double is written with its shortest digits.  A style says for which magnitudes
all places are written out; beyond them the number has one digit before the point
and a power of ten behind the mark `e`.
-/

namespace TextCursor.Decimal

/-- The choices in writing a double. -/
structure Style where
  /-- The least power of ten whose multiples are written out. -/
  leastWritten : Int
  /-- The greatest power of ten whose multiples are written out. -/
  greatestWritten : Int
  /-- The text of infinity. -/
  infinity : String
  /-- The text of a result that is no number. -/
  undefined : String

namespace Digits

/-- All places written out, with at least one on either side of the point. -/
def writeOut (decimal : Digits) : String :=
  let count := decimal.digits.length
  if decimal.point ≤ 0 then
    "0." ++ String.ofList (List.replicate (-decimal.point).toNat '0' ++ decimal.digits)
  else if count ≤ decimal.point.toNat then
    String.ofList (decimal.digits ++ List.replicate (decimal.point.toNat - count) '0') ++ ".0"
  else
    String.ofList (decimal.digits.take decimal.point.toNat) ++ "." ++
      String.ofList (decimal.digits.drop decimal.point.toNat)

/-- One digit, the others behind a point, and the power of ten. -/
def writePower (decimal : Digits) : String :=
  let others := decimal.digits.drop 1
  String.ofList (decimal.digits.take 1) ++
    (if others.isEmpty then "" else "." ++ String.ofList others) ++
    "e" ++ toString (decimal.point - 1)

/-- A decimal in the given style. -/
def write (style : Style) (decimal : Digits) : String :=
  if style.leastWritten ≤ decimal.point - 1 ∧ decimal.point - 1 ≤ style.greatestWritten then
    decimal.writeOut
  else
    decimal.writePower

end Digits

/-- The bit that makes a double negative. -/
def signBit : Nat := 0x8000000000000000

/-- The bits of infinity; anything above is no number. -/
def infinityBits : Nat := 0x7FF0000000000000

/-- A double in the given style. -/
def write (style : Style) (number : Float) : String :=
  let bits := number.toBits
  let magnitude := bits.toNat % signBit
  let sign := if signBit ≤ bits.toNat then "-" else ""
  if magnitude = 0 then sign ++ "0.0"
  else if magnitude = infinityBits then sign ++ style.infinity
  else if infinityBits < magnitude then style.undefined
  else sign ++ (Interval.ofBits magnitude.toUInt64).shortest.write style

end TextCursor.Decimal
