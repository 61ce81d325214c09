import TextCursor.ClassName
import TextCursor.Matcher

/-!
# The standard character classes

Twenty-seven classes are known by name: digits, the characters of identifiers,
blanks and line ends, punctuation, and brackets of four kinds, each kind with a
class for either side and one for both.
-/

namespace TextCursor

/-- A standard character class. -/
inductive CharClass where
  | digit
  | alphabet
  | whitespace
  | newline
  | atSign
  | quote
  | dot
  | semicolon
  | hashtag
  | dollarSign
  | astrix
  | exclamationSign
  | slash
  | equal
  | colon
  | leftAngleBracket
  | rightAngleBracket
  | angleBracket
  | leftSquareBracket
  | rightSquareBracket
  | squareBracket
  | leftRoundBracket
  | rightRoundBracket
  | roundBracket
  | leftCurlyBracket
  | rightCurlyBracket
  | curlyBracket
  deriving DecidableEq, Repr

namespace CharClass

/-- All standard classes. -/
def all : List CharClass :=
  [ .digit, .alphabet, .whitespace, .newline, .atSign, .quote, .dot, .semicolon, .hashtag,
    .dollarSign, .astrix, .exclamationSign, .slash, .equal, .colon, .leftAngleBracket,
    .rightAngleBracket, .angleBracket, .leftSquareBracket, .rightSquareBracket, .squareBracket,
    .leftRoundBracket, .rightRoundBracket, .roundBracket, .leftCurlyBracket, .rightCurlyBracket,
    .curlyBracket ]

/-- The name under which a class is registered. -/
def name : CharClass → String
  | .digit => "digit"
  | .alphabet => "alphabet"
  | .whitespace => "whitespace"
  | .newline => "newline"
  | .atSign => "at_sign"
  | .quote => "quote"
  | .dot => "dot"
  | .semicolon => "semicolon"
  | .hashtag => "hashtag"
  | .dollarSign => "dollar_sign"
  | .astrix => "astrix"
  | .exclamationSign => "exclamation_sign"
  | .slash => "slash"
  | .equal => "equal"
  | .colon => "colon"
  | .leftAngleBracket => "left_angle_bracket"
  | .rightAngleBracket => "right_angle_bracket"
  | .angleBracket => "angle_bracket"
  | .leftSquareBracket => "left_square_bracket"
  | .rightSquareBracket => "right_square_bracket"
  | .squareBracket => "square_bracket"
  | .leftRoundBracket => "left_round_bracket"
  | .rightRoundBracket => "right_round_bracket"
  | .roundBracket => "round_bracket"
  | .leftCurlyBracket => "left_curly_bracket"
  | .rightCurlyBracket => "right_curly_bracket"
  | .curlyBracket => "curly_bracket"

/-- The name with its words run together, each with a capital letter. -/
def label (charClass : CharClass) : String :=
  String.join ((charClass.name.splitOn "_").map String.capitalize)

/-- What the definition of a class says. -/
inductive Definition where
  /-- The class is exactly one text. -/
  | literal (text : String)
  /-- The class is what a pattern matches in. -/
  | pattern (source : String)
  deriving DecidableEq, Repr

/-- The definition of a class. -/
def definition : CharClass → Definition
  | .digit => .pattern "[0-9]"
  | .alphabet => .pattern "[A-Za-z0-9_]"
  | .whitespace => .literal " "
  | .newline => .pattern "\\r\\n?|\\n|\\u\x7b2028\x7d|\\u\x7b2029\x7d"
  | .atSign => .literal "@"
  | .quote => .pattern "['\"`]"
  | .dot => .literal "."
  | .semicolon => .literal ";"
  | .hashtag => .literal "#"
  | .dollarSign => .literal "$"
  | .astrix => .literal "*"
  | .exclamationSign => .literal "!"
  | .slash => .literal "/"
  | .equal => .literal "="
  | .colon => .literal ":"
  | .leftAngleBracket => .literal "<"
  | .rightAngleBracket => .literal ">"
  | .angleBracket => .pattern "[<>]"
  | .leftSquareBracket => .literal "["
  | .rightSquareBracket => .literal "]"
  | .squareBracket => .pattern "[\\[\\]]"
  | .leftRoundBracket => .literal "("
  | .rightRoundBracket => .literal ")"
  | .roundBracket => .pattern "[()]"
  | .leftCurlyBracket => .literal "\x7b"
  | .rightCurlyBracket => .literal "\x7d"
  | .curlyBracket => .pattern "[\x7b\x7d]"

/-- The class of a name, whose words may be separated by underscores or spaces. -/
def ofName? (name : String) : Option CharClass :=
  all.find? fun charClass => ClassName.spells charClass.name name

/-- The name of no standard class. -/
structure UnknownClass where
  /-- The name as it was given. -/
  name : String
  deriving DecidableEq, Repr

/-- What to tell the reader about an unknown class. -/
def UnknownClass.message (unknown : UnknownClass) : String :=
  "unknown character class `" ++ unknown.name ++ "`"

/-- The class of a name, or the name if no class bears it. -/
def ofName (name : String) : Except UnknownClass CharClass :=
  match ofName? name with
  | some charClass => .ok charClass
  | none => .error ⟨name⟩

theorem mem_all (charClass : CharClass) : charClass ∈ all := by
  cases charClass <;> decide

end CharClass

end TextCursor
