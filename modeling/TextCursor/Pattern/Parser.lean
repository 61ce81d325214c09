import TextCursor.Pattern.Expr
import TextCursor.Pattern.Token

/-!
# Reading patterns

The grammar of patterns: alternatives are separated by bars and may be empty,
groups nest, and a repetition applies to the expression right before it.  The
reader goes through the tokens once and keeps, for every group that is still open,
what it has read of it.
-/

namespace TextCursor.Pattern

/-- What has been read of a group that is still open. -/
structure Level where
  /-- The finished alternatives, the last one first. -/
  finished : List Expr := []
  /-- The expressions of the current alternative, the last one first. -/
  current : List Expr := []
  /-- Whether the last thing read is an expression that can be repeated. -/
  repeatable : Bool := false
  /-- Whether letters stand for both of their cases from here on. -/
  ignoreCase : Bool := false

namespace Level

/-- Add an expression to the current alternative. -/
def append (level : Level) (expr : Expr) : Level :=
  { level with current := expr :: level.current, repeatable := true }

/-- Finish the current alternative and begin the next one. -/
def nextAlternative (level : Level) : Level :=
  { level with
    finished := Expr.sequence level.current.reverse :: level.finished
    current := []
    repeatable := false }

/-- The expression for the whole group. -/
def close (level : Level) : Expr :=
  match (Expr.sequence level.current.reverse :: level.finished).reverse with
  | [] => .empty
  | first :: others => Expr.choice first others

end Level

/-- Read the remaining tokens of a pattern within a group and the groups around
it. -/
def Expr.ofTokens (level : Level) (outer : List Level) :
    List Token → Except SyntaxError Expr
  | [] => if outer.isEmpty then pure level.close else throw .unclosedGroup
  | token :: rest =>
      match token with
      | .set allowed =>
          ofTokens (level.append (.set { allowed with ignoreCase := level.ignoreCase }))
            outer rest
      | .textStart => ofTokens (level.append .textStart) outer rest
      | .textEnd => ofTokens (level.append .textEnd) outer rest
      | .bar => ofTokens level.nextAlternative outer rest
      | .openGroup => ofTokens { ignoreCase := level.ignoreCase } (level :: outer) rest
      | .closeGroup =>
          match outer with
          | [] => throw .unopenedGroup
          | enclosing :: outer => ofTokens (enclosing.append level.close) outer rest
      | .ignoreCase => ofTokens { level with repeatable := false, ignoreCase := true } outer rest
      | .repetition least most =>
          match level.repeatable, level.current with
          | true, body :: earlier =>
              ofTokens { level with current := body.repeated least most :: earlier } outer rest
          | _, _ => throw .nothingToRepeat

/-- The regular expression that a pattern spells. -/
def Expr.ofSource (source : String) : Except SyntaxError Expr := do
  Expr.ofTokens {} [] (← Token.ofSource source)

end TextCursor.Pattern
