import TextCursor.CharClass
import TextCursor.Text.Quoted

/-!
# Predicates

What a cursor asks of one character after another while it reads a run of them.  A
test may remember what it has seen: its state is handed to it with every question
and comes back with the answer.
-/

namespace TextCursor

/-- A condition on the characters of a run, with tests whose states have type
`σ`. -/
inductive Predicate (σ : Type) where
  /-- Ask about a character and the number of characters accepted before it. -/
  | test (ask : σ → Char → Nat → Bool × σ)
  /-- The pattern matches the character. -/
  | pattern (rule : Pattern)
  /-- The source goes on with the class, or else the text, of this name. -/
  | name (name : String)

namespace Predicate

variable {σ : Type}

/-- The predicate of a standard class. -/
def ofClass (charClass : CharClass) : Predicate σ := .name charClass.name

/-- A test that remembers nothing and does not count. -/
def ofChar (ask : Char → Bool) : Predicate σ := .test fun state char _ => (ask char, state)

/-- A one-line description. -/
def describe : Predicate σ → String
  | .test _ => "Callback(..)"
  | .pattern rule => "Pattern(" ++ Text.quoted rule.source ++ ")"
  | .name text => "Name(" ++ Text.quoted text ++ ")"

end Predicate

end TextCursor
