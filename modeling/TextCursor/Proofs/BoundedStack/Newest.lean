import Mathlib.Data.List.DropRight
import TextCursor.Proofs.BoundedStack.Ledger

/-!
# The newest of all values

While values are pushed onto a stack, none is lost between what it holds and what it forgets
(`toList_pushAll`), and it holds as many as fit (`size_pushAll`).  So it ends up with the end of
all that it held and was given, and has forgotten the beginning, in the same order.  How the values
are divided among several goes does not matter (`pushAll_append`).
-/

namespace TextCursor.BoundedStack

universe u

variable {α : Type u}

theorem size_pushAll (stack : BoundedStack α) (values : List α) :
    (stack.pushAll values).size = min (stack.size + values.length) stack.capacity := by
  rw [size, entries_pushAll, List.length_take, List.length_append, List.length_reverse, size,
    Nat.min_comm, Nat.add_comm]

/-- The values held afterwards are the end of those held before and those pushed. -/
theorem toList_pushAll_eq_rtake (stack : BoundedStack α) (values : List α) :
    (stack.pushAll values).toList =
      (stack.toList ++ values).rtake (min (stack.size + values.length) stack.capacity) := by
  rw [← size_pushAll, ← length_toList, ← toList_pushAll, List.rtake, List.length_append,
    Nat.add_sub_cancel, List.drop_left]

/-- The values forgotten on the way are the beginning that is not held. -/
theorem evictions_eq_rdrop (stack : BoundedStack α) (values : List α) :
    stack.evictions values =
      (stack.toList ++ values).rdrop (min (stack.size + values.length) stack.capacity) := by
  rw [← size_pushAll, ← length_toList, ← toList_pushAll, List.rdrop_append_length]

/-- A stack that is made of values holds the last of them, as many as it has room for.  Whatever
was done with a stack before, behind further values it holds the last of its old values and the
new ones, as many as it has room for, and the values that it forgot meanwhile are, in the order in
which it forgot them, all the others before those.  Two goes of pushing leave the same stack as
a single one. -/
theorem pushAll_keeps_newest (capacity : Nat) (values more : List α) :
    ((ofList values capacity).toList = values.rtake (min values.length capacity) ∧
      (ofList values capacity).capacity = capacity ∧
      (ofList values capacity).pushAll more = ofList (values ++ more) capacity) ∧
    ∀ stack : BoundedStack α,
      let all := stack.toList ++ values
      let kept := min (stack.size + values.length) stack.capacity
      (stack.pushAll values).toList = all.rtake kept ∧
        stack.evictions values = all.rdrop kept ∧
        (stack.pushAll values).capacity = stack.capacity ∧
        (stack.pushAll values).pushAll more = stack.pushAll (values ++ more) := by
  refine ⟨⟨?_, ?_, ?_⟩, fun stack => ⟨?_, ?_, ?_, ?_⟩⟩
  · have newest := toList_pushAll_eq_rtake (empty capacity) values
    rw [show (empty capacity : BoundedStack α).size = 0 from rfl, Nat.zero_add] at newest
    exact newest
  · exact capacity_pushAll (empty capacity) values
  · exact (pushAll_append (empty capacity) values more).symm
  · exact toList_pushAll_eq_rtake stack values
  · exact evictions_eq_rdrop stack values
  · exact capacity_pushAll stack values
  · exact (pushAll_append stack values more).symm

/-- A full stack forgets what it held, and then what it was given on the way. -/
example : (ofList ['a', 'b'] 2).evictions ['c', 'd', 'e'] = ['a', 'b', 'c'] := by decide

end TextCursor.BoundedStack
