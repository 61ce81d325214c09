import TextCursor.Pattern.Basic

/-!
# Matchers

A matcher decides whether a text belongs to a character class: the text is the
literal itself, or the pattern matches somewhere in it.
-/

namespace TextCursor

/-- The rule of a character class. -/
inductive Matcher where
  /-- The text is exactly the given one. -/
  | literal (text : String)
  /-- The pattern matches somewhere in the text. -/
  | pattern (rule : Pattern)

namespace Matcher

/-- Whether a text satisfies the matcher. -/
def accepts (matcher : Matcher) (candidate : String) : Bool :=
  match matcher with
  | .literal text => text == candidate
  | .pattern rule => rule.search candidate

/-- Whether the text of one character satisfies the matcher. -/
def acceptsChar (matcher : Matcher) (char : Char) : Bool :=
  matcher.accepts char.toString

end Matcher

end TextCursor
