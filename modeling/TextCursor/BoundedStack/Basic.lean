/-!
# Bounded stacks

A bounded stack is a last-in-first-out store that remembers at most `capacity`
values.  Pushing onto a full stack forgets the oldest value, so the stack always
holds the most recent ones.  The entries are kept newest first, which makes
pushing, popping and looking at the top constant-shape list operations; the view
`toList` reads them in the order they arrived, oldest first.
-/

namespace TextCursor

universe u

/-- A stack of the most recent values, at most `capacity` of them. -/
structure BoundedStack (α : Type u) where
  /-- The values held, newest first. -/
  entries : List α
  /-- The largest number of values held at once. -/
  capacity : Nat
  /-- No more values are held than the capacity allows. -/
  length_le : entries.length ≤ capacity
  deriving DecidableEq

namespace BoundedStack

variable {α : Type u}

/-- The two ends of a bounded stack. -/
inductive Side where
  /-- The end where values are pushed and popped. -/
  | newest
  /-- The end where values are forgotten. -/
  | oldest
  deriving DecidableEq, Repr

/-- The capacity of a stack for which none is chosen. -/
def defaultCapacity : Nat := 20

/-- The stack that holds nothing. -/
def empty (capacity : Nat := defaultCapacity) : BoundedStack α where
  entries := []
  capacity := capacity
  length_le := Nat.zero_le capacity

instance : Inhabited (BoundedStack α) := ⟨empty⟩

/-- The values held, oldest first. -/
def toList (stack : BoundedStack α) : List α := stack.entries.reverse

/-- The number of values held. -/
def size (stack : BoundedStack α) : Nat := stack.entries.length

/-- Whether the stack holds no value. -/
def isEmpty (stack : BoundedStack α) : Bool := stack.entries.isEmpty

/-- Put a value on top; beyond the capacity the oldest value is forgotten. -/
def push (stack : BoundedStack α) (value : α) : BoundedStack α where
  entries := (value :: stack.entries).take stack.capacity
  capacity := stack.capacity
  length_le := List.length_take_le _ _

/-- The value that pushing `value` forgets, if the stack is full.  A stack
without room for anything forgets `value` itself. -/
def evicted? (stack : BoundedStack α) (value : α) : Option α :=
  (value :: stack.entries)[stack.capacity]?

/-- Look at the value at one end. -/
def peek? (stack : BoundedStack α) (side : Side := .newest) : Option α :=
  match side with
  | .newest => stack.entries.head?
  | .oldest => stack.entries.getLast?

/-- Remove the newest value; an empty stack stays as it is. -/
def pop (stack : BoundedStack α) : BoundedStack α where
  entries := stack.entries.tail
  capacity := stack.capacity
  length_le := by
    have held := stack.length_le
    simp only [List.length_tail]
    omega

/-- Remove every value; the capacity stays. -/
def clear (stack : BoundedStack α) : BoundedStack α := empty stack.capacity

/-- Push several values, the first one first. -/
def pushAll (stack : BoundedStack α) (values : List α) : BoundedStack α :=
  values.foldl push stack

/-- The values forgotten while several values are pushed, in the order in which
they are forgotten. -/
def evictions : BoundedStack α → List α → List α
  | _, [] => []
  | stack, value :: values =>
      (stack.evicted? value).toList ++ evictions (stack.push value) values

/-- The stack that received the given values, the first one first. -/
def ofList (values : List α) (capacity : Nat := defaultCapacity) : BoundedStack α :=
  (empty capacity).pushAll values

/-- Take values away from either end of a sequence, noting how many were left
before each turn and which value the turn gave. -/
def walkList : List Side → List α → List (Nat × Option α)
  | [], _ => []
  | .oldest :: sides, values => (values.length, values.head?) :: walkList sides values.tail
  | .newest :: sides, values => (values.length, values.getLast?) :: walkList sides values.dropLast

/-- Visit the values from both ends, in the given order of turns. -/
def walk (stack : BoundedStack α) (sides : List Side) : List (Nat × Option α) :=
  walkList sides stack.toList

/-- A one-line description: the values, oldest first, and the capacity. -/
def describe (stack : BoundedStack α) (render : α → String) : String :=
  "BoundedStack \x7b items: [" ++ String.intercalate ", " (stack.toList.map render) ++
    "], capacity: " ++ toString stack.capacity ++ " \x7d"

end BoundedStack

end TextCursor
