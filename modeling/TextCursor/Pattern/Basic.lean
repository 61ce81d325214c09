/-!
# Patterns

A pattern is a source text that has been compiled: what is left of its meaning is the
texts it matches in.  Which source texts compile, and to what, is for an engine to say.
-/

namespace TextCursor

/-- A compiled pattern. -/
structure Pattern where
  /-- The text of the pattern. -/
  source : String
  /-- Whether the pattern matches somewhere in a text. -/
  search : String → Bool

/-- Whether the pattern matches somewhere in the text of one character. -/
def Pattern.searchChar (pattern : Pattern) (char : Char) : Bool :=
  pattern.search (String.singleton char)

end TextCursor
