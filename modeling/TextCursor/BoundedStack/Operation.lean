import TextCursor.BoundedStack.Basic

/-!
# Operations on bounded stacks

Everything that changes a bounded stack, as data: what each operation answers and
leaves behind, and which values it moves.
-/

namespace TextCursor.BoundedStack

universe u

variable {α : Type u}

/-- Something to do with a stack. -/
inductive Operation (α : Type u) where
  | push (value : α)
  | pop
  | clear
  | pushAll (values : List α)
  deriving DecidableEq, Repr

/-- Carry out an operation. -/
def perform (stack : BoundedStack α) : Operation α → BoundedStack α
  | .push value => stack.push value
  | .pop => stack.pop
  | .clear => stack.clear
  | .pushAll values => stack.pushAll values

/-- What an operation answers: a push the value that it forgets, and a pop the one that
it removes. -/
def answer? (stack : BoundedStack α) : Operation α → Option α
  | .push value => stack.evicted? value
  | .pop => stack.peek?
  | .clear => none
  | .pushAll _ => none

/-- The stack behind several operations. -/
def after (stack : BoundedStack α) : List (Operation α) → BoundedStack α
  | [] => stack
  | operation :: operations => (stack.perform operation).after operations

/-- The values that an operation puts on a stack, the first one first. -/
def Operation.pushed : Operation α → List α
  | .push value => [value]
  | .pop => []
  | .clear => []
  | .pushAll values => values

/-- The values that have left a stack, by the way they left and in the order in which
they did. -/
structure Ledger (α : Type u) where
  popped : List α := []
  evicted : List α := []
  cleared : List α := []
  deriving DecidableEq, Repr

/-- What left first, and what left after it. -/
instance : Append (Ledger α) where
  append first second :=
    ⟨first.popped ++ second.popped, first.evicted ++ second.evicted,
      first.cleared ++ second.cleared⟩

section Append

variable (first second : Ledger α)

@[simp] theorem Ledger.popped_append :
    (first ++ second).popped = first.popped ++ second.popped := rfl

@[simp] theorem Ledger.evicted_append :
    (first ++ second).evicted = first.evicted ++ second.evicted := rfl

@[simp] theorem Ledger.cleared_append :
    (first ++ second).cleared = first.cleared ++ second.cleared := rfl

end Append

/-- The values that leave a stack with one operation. -/
def leaving (stack : BoundedStack α) : Operation α → Ledger α
  | .push value => { evicted := (stack.evicted? value).toList }
  | .pop => { popped := stack.peek?.toList }
  | .clear => { cleared := stack.toList }
  | .pushAll values => { evicted := stack.evictions values }

/-- The values that leave a stack with several operations. -/
def ledger (stack : BoundedStack α) : List (Operation α) → Ledger α
  | [] => {}
  | operation :: operations =>
      stack.leaving operation ++ (stack.perform operation).ledger operations

end TextCursor.BoundedStack
