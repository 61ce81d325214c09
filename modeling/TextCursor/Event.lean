import TextCursor.BoundedStack.Basic

/-!
# Events

What the library reports while it works, for a reader who follows along: values
that a bounded stack forgets, jumps and undone steps of a cursor, and classes that are
registered.  What a lexer finds or cannot use is a report about its tokens.
-/

namespace TextCursor

/-- Something worth reporting. -/
inductive Event where
  /-- A bounded stack forgot its oldest value. -/
  | evicted (capacity : Nat)
  /-- A cursor is about to jump. -/
  | jumped (origin target : Int)
  /-- A cursor stepped back to a remembered position. -/
  | undone (origin target : Int)
  /-- The standard classes were registered. -/
  | standardRegistered (count : Nat)
  /-- A class with a literal text was registered. -/
  | literalRegistered (name : String)
  /-- A class with a pattern was registered. -/
  | patternRegistered (name source : String)
  deriving DecidableEq, Repr

/-- Something that a lexer has to say about a text, with tokens of type `τ`. -/
inductive Report (τ : Type) where
  /-- A token was found. -/
  | tokenFound (token : τ)
  /-- A character that begins no token was skipped. -/
  | characterSkipped (char : Char) (offset : Int)
  /-- The text ended within a string. -/
  | unterminatedString (offset : Int)
  /-- The text ended behind the backslash of an escape. -/
  | unterminatedEscape (offset : Int)
  deriving DecidableEq, Repr

namespace Event

/-- How important an event or a report is. -/
inductive Level where
  | trace
  | debug
  | warning
  deriving DecidableEq, Repr

/-- The importance of an event. -/
def level : Event → Level
  | .evicted _ | .jumped .. | .undone .. => .trace
  | .standardRegistered _ | .literalRegistered _ | .patternRegistered .. => .debug

/-- The message of an event. -/
def message : Event → String
  | .evicted _ => "bounded stack evicting oldest entry"
  | .jumped .. => "cursor goto"
  | .undone .. => "cursor undo"
  | .standardRegistered _ => "registered standard character classes"
  | .literalRegistered _ => "registered literal character class"
  | .patternRegistered .. => "registered pattern character class"

/-- The value of a detail. -/
inductive Detail where
  | number (value : Int)
  | text (value : String)
  deriving DecidableEq, Repr

/-- The named details of an event. -/
def details : Event → List (String × Detail)
  | .evicted capacity => [("capacity", .number capacity)]
  | .jumped origin target => [("from", .number origin), ("to", .number target)]
  | .undone origin target => [("from", .number origin), ("to", .number target)]
  | .standardRegistered count => [("count", .number count)]
  | .literalRegistered name => [("name", .text name)]
  | .patternRegistered name source => [("name", .text name), ("pattern", .text source)]

end Event

namespace Report

variable {τ : Type}

/-- The importance of a report. -/
def level : Report τ → Event.Level
  | .tokenFound _ => .debug
  | .characterSkipped .. | .unterminatedString _ | .unterminatedEscape _ => .warning

/-- The message of a report. -/
def message : Report τ → String
  | .tokenFound _ => "token"
  | .characterSkipped .. => "skipping unexpected character"
  | .unterminatedString _ => "unterminated string"
  | .unterminatedEscape _ => "unterminated escape"

/-- The named details of a report, with tokens described as given. -/
def details (describe : τ → String) : Report τ → List (String × Event.Detail)
  | .tokenFound token => [("token", .text (describe token))]
  | .characterSkipped char offset => [("ch", .text char.toString), ("at", .number offset)]
  | .unterminatedString offset => [("at", .number offset)]
  | .unterminatedEscape offset => [("at", .number offset)]

end Report

/-- The events of pushing several values: one for every value forgotten. -/
def BoundedStack.events {α : Type} (stack : BoundedStack α) (values : List α) : List Event :=
  (stack.evictions values).map fun _ => .evicted stack.capacity

end TextCursor
