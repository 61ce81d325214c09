/-!
# Sets of characters given by ranges of code points

Properties of characters are tables: lists of closed ranges of code points, in
increasing order.
-/

namespace TextCursor.Text

/-- A table of closed ranges of code points. -/
abbrev CodePoints := List (Nat × Nat)

/-- Whether some range of the table holds the character. -/
def CodePoints.contains (table : CodePoints) (char : Char) : Bool :=
  table.any fun range => range.1 ≤ char.toNat && char.toNat ≤ range.2

end TextCursor.Text
