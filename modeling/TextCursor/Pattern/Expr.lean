import TextCursor.Pattern.CharSet

/-!
# Regular expressions

The expressions that patterns denote, and how to search a text for a match.  A
search marks the sets of an expression that may just have taken their character.
Reading a character moves the marks: a set is marked next if the character belongs
to it and a match may have come to the place right before it.  Since a match may
begin anywhere, the place before the whole expression is always reached.
-/

namespace TextCursor.Pattern

/-- A regular expression over characters. -/
inductive Expr where
  /-- The empty text. -/
  | empty
  /-- One character of a set; `reached` marks the set during a search. -/
  | set (allowed : CharSet) (reached : Bool := false)
  /-- The empty text at the start of the whole text. -/
  | textStart
  /-- The empty text at the end of the whole text. -/
  | textEnd
  /-- One expression after the other. -/
  | seq (first second : Expr)
  /-- Either of two expressions. -/
  | alt (left right : Expr)
  /-- Any number of matches of an expression in a row. -/
  | star (body : Expr)
  deriving DecidableEq, Repr

namespace Expr

/-- One expression after the other, for a list of them. -/
def sequence : List Expr → Expr
  | [] => .empty
  | [only] => only
  | first :: others => .seq first (sequence others)

/-- Any of a first expression and further ones. -/
def choice : Expr → List Expr → Expr
  | only, [] => only
  | first, second :: others => .alt first (choice second others)

/-- An expression a fixed number of times in a row, then another one. -/
def copies (body : Expr) : Nat → Expr → Expr
  | 0, last => last
  | count + 1, last => .seq body (copies body count last)

/-- At most the given number of matches in a row. -/
def upTo (body : Expr) : Nat → Expr
  | 0 => .empty
  | 1 => .alt body .empty
  | count + 1 => .alt (.seq body (upTo body count)) .empty

/-- At least `least` matches in a row, and at most `most` if there is a bound. -/
def repeated (body : Expr) (least : Nat) (most : Option Nat) : Expr :=
  match most with
  | none => body.copies least (.star body)
  | some most => body.copies least (body.upTo (most - least))

/-- Whether the expression matches the empty text at a place that may be the start
or the end of the whole text. -/
def nullable (atStart atEnd : Bool) : Expr → Bool
  | .empty => true
  | .set _ _ => false
  | .textStart => atStart
  | .textEnd => atEnd
  | .seq first second => first.nullable atStart atEnd && second.nullable atStart atEnd
  | .alt left right => left.nullable atStart atEnd || right.nullable atStart atEnd
  | .star _ => true

/-- Whether a match that has taken a character is complete at a place that may be the
start or the end of the whole text. -/
def complete (atStart atEnd : Bool) : Expr → Bool
  | .empty => false
  | .set _ reached => reached
  | .textStart => false
  | .textEnd => false
  | .seq first second =>
      (first.complete atStart atEnd && second.nullable atStart atEnd) ||
        second.complete atStart atEnd
  | .alt left right => left.complete atStart atEnd || right.complete atStart atEnd
  | .star body => body.complete atStart atEnd

/-- Move the marks over a character at a place that may be the start of the whole
text; `entered` tells whether a match has come to the place before the expression. -/
def advance (atStart entered : Bool) (char : Char) : Expr → Expr
  | .empty => .empty
  | .set allowed _ => .set allowed (entered && allowed.contains char)
  | .textStart => .textStart
  | .textEnd => .textEnd
  | .seq first second =>
      .seq (first.advance atStart entered char)
        (second.advance atStart
          ((entered && first.nullable atStart false) || first.complete atStart false) char)
  | .alt left right =>
      .alt (left.advance atStart entered char) (right.advance atStart entered char)
  | .star body => .star (body.advance atStart (entered || body.complete atStart false) char)

/-- Whether a match is complete at a place that may be the start or the end of the
whole text. -/
def found (atStart atEnd : Bool) (expr : Expr) : Bool :=
  expr.nullable atStart atEnd || expr.complete atStart atEnd

/-- Whether a match is complete here or later in the characters ahead. -/
def searchFrom (atStart : Bool) (expr : Expr) : List Char → Bool
  | [] => expr.found atStart true
  | char :: chars =>
      expr.found atStart false || (expr.advance atStart true char).searchFrom false chars

/-- Whether an unmarked expression matches somewhere in a text. -/
def search (expr : Expr) (chars : List Char) : Bool := expr.searchFrom true chars

end Expr

end TextCursor.Pattern
