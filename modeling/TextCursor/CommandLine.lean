import TextCursor.Calculator.Lexer
import TextCursor.Json.Lexer

/-!
# The command line

Two programs show the lexers at work.  Each lists the tokens of the text that is its
first argument; without arguments it goes through samples of its own.
-/

namespace TextCursor.CommandLine

/-- A program. -/
inductive Program where
  /-- Lists the tokens of arithmetic expressions. -/
  | calculator
  /-- Lists the tokens of JSON texts. -/
  | json
  deriving DecidableEq, Repr

/-- The program of a name. -/
def Program.ofName? (name : String) : Option Program :=
  if name = "calc" then some .calculator
  else if name = "json" then some .json
  else none

/-- The texts that a program goes through without arguments. -/
def Program.samples : Program → List String
  | .calculator => ["3 + 4", "2 * 3.14", "(1 + 2) * 3", "2 ^ 8", "10 / .5", "1 . 2"]
  | .json =>
      [ "\x7b\n        \"name\": \"Alice\",\n        \"age\": 30,\n        \"score\": -1.5e3,\n" ++
        "        \"active\": true,\n        \"tags\": [\"developer\", \"rust\\n\"],\n" ++
        "        \"address\": null\n    \x7d" ]

/-- The listing of an expression's tokens, one to a line. -/
def listExpression (text : String) : String :=
  "Expression: " ++ text ++ "\nTokens:\n" ++
    String.join ((Calculator.tokens text).map fun token => "  " ++ token.describe ++ "\n") ++ "\n"

/-- The listing of a JSON text's tokens, numbered from zero. -/
def listJson (text : String) : String :=
  "Tokenizing JSON:\n" ++ text ++ "\n\nTokens:\n" ++
    String.join ((Json.tokens text).mapIdx fun index token =>
      "  " ++ toString index ++ ": " ++ token.describe ++ "\n")

/-- The listing of a text's tokens. -/
def Program.list : Program → String → String
  | .calculator, text => listExpression text
  | .json, text => listJson text

/-- What a program prints. -/
def Program.output (program : Program) (arguments : List String) : String :=
  let texts := match arguments with
    | [] => program.samples
    | text :: _ => [text]
  String.join (texts.map program.list)

end TextCursor.CommandLine
