/-!
# Source texts

A source text is a string whose characters can be looked up and cut out by their
place.  A string is stored as bytes, and a character takes one to four of them, so
a table keeps the byte offset of every character and of the end of the text.
Places count characters throughout; only this module knows about bytes.
-/

namespace TextCursor

/-- The byte offsets of characters that are stored from a given offset on, followed
by the offset of their end. -/
def byteOffsets (start : Nat) : List Char → List Nat
  | [] => [start]
  | char :: chars => start :: byteOffsets (start + char.utf8Size) chars

/-- A text with the byte offsets of its characters. -/
structure Source where
  /-- The whole text. -/
  text : String
  /-- The byte offset of every character, and of the end. -/
  offsets : Array Nat
  /-- The table is the one of the text. -/
  toList_offsets : offsets.toList = byteOffsets 0 text.toList

namespace Source

/-- The source with the given text. -/
def ofString (text : String) : Source where
  text := text
  offsets := (byteOffsets 0 text.toList).toArray
  toList_offsets := by simp

/-- The number of characters. -/
def length (source : Source) : Nat := source.offsets.size - 1

/-- The byte offset of a place; any place beyond the end counts as the end. -/
def offset (source : Source) (place : Nat) : Nat :=
  source.offsets.getD place source.text.utf8ByteSize

/-- The character at a place, if the place lies in the text. -/
def charAt? (source : Source) (place : Int) : Option Char :=
  if 0 ≤ place ∧ place.toNat < source.length then
    String.Pos.Raw.get? source.text ⟨source.offset place.toNat⟩
  else none

/-- The characters from `first` up to but not including `stop`. -/
def slice (source : Source) (first stop : Nat) : String :=
  String.Pos.Raw.extract source.text ⟨source.offset first⟩ ⟨source.offset stop⟩

end Source

end TextCursor
