import TextCursor.Decimal.Layout

/-!
# Tokens of arithmetic expressions

Numbers, the five arithmetic operators and round brackets, each with the place in
the text where it begins.
-/

namespace TextCursor.Calculator

/-- An operator or bracket. -/
inductive Mark where
  | plus
  | minus
  | multiply
  | divide
  | power
  | leftParen
  | rightParen
  deriving DecidableEq, Repr

namespace Mark

/-- The mark that a character spells. -/
def ofChar? : Char → Option Mark
  | '+' => some .plus
  | '-' => some .minus
  | '*' => some .multiply
  | '/' => some .divide
  | '^' => some .power
  | '(' => some .leftParen
  | ')' => some .rightParen
  | _ => none

/-- The name of a mark. -/
def label : Mark → String
  | .plus => "Plus"
  | .minus => "Minus"
  | .multiply => "Multiply"
  | .divide => "Divide"
  | .power => "Power"
  | .leftParen => "LeftParen"
  | .rightParen => "RightParen"

end Mark

/-- A token of an arithmetic expression. -/
inductive Token where
  /-- A number. -/
  | number (value : Float) (offset : Int)
  /-- An operator or bracket. -/
  | mark (mark : Mark) (offset : Int)
  /-- The end of the text. -/
  | eof (offset : Int)
  deriving DecidableEq

namespace Token

/-- Numbers are written out from a ten-thousandth up to ten quadrillions. -/
def numberStyle : Decimal.Style where
  leastWritten := -4
  greatestWritten := 15
  infinity := "inf"
  undefined := "NaN"

/-- The text of a number. -/
def writeNumber (value : Float) : String := Decimal.write numberStyle value

/-- The name of the kind of token. -/
def label : Token → String
  | .number .. => "Number"
  | .mark spelled _ => spelled.label
  | .eof _ => "Eof"

/-- The place where the token begins. -/
def offset : Token → Int
  | .number _ place => place
  | .mark _ place => place
  | .eof place => place

/-- A one-line description. -/
def describe (token : Token) : String :=
  let value := match token with
    | .number value _ => "value: " ++ writeNumber value ++ ", "
    | _ => ""
  token.label ++ " \x7b " ++ value ++ "at: " ++ toString token.offset ++ " \x7d"

end Token

end TextCursor.Calculator
