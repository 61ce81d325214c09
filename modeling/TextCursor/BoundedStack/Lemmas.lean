import TextCursor.BoundedStack.Basic

/-!
# What each stack operation does to the contents

One equation per operation, through the entries and through the view `toList`.
The central one is `entries_pushAll`: pushing values keeps the newest `capacity`
values of everything offered.
-/

namespace TextCursor.BoundedStack

universe u

variable {α : Type u}

@[ext] theorem ext {left right : BoundedStack α} (entries : left.entries = right.entries)
    (capacity : left.capacity = right.capacity) : left = right := by
  cases left
  cases right
  simp_all

@[simp] theorem entries_empty (capacity : Nat) :
    (empty capacity : BoundedStack α).entries = [] := rfl

@[simp] theorem capacity_empty (capacity : Nat) :
    (empty capacity : BoundedStack α).capacity = capacity := rfl

@[simp] theorem length_toList (stack : BoundedStack α) : stack.toList.length = stack.size :=
  List.length_reverse

@[simp] theorem entries_push (stack : BoundedStack α) (value : α) :
    (stack.push value).entries = (value :: stack.entries).take stack.capacity := rfl

@[simp] theorem capacity_push (stack : BoundedStack α) (value : α) :
    (stack.push value).capacity = stack.capacity := rfl

@[simp] theorem entries_pop (stack : BoundedStack α) :
    stack.pop.entries = stack.entries.tail := rfl

@[simp] theorem capacity_pop (stack : BoundedStack α) :
    stack.pop.capacity = stack.capacity := rfl

@[simp] theorem entries_clear (stack : BoundedStack α) : stack.clear.entries = [] := rfl

@[simp] theorem capacity_clear (stack : BoundedStack α) :
    stack.clear.capacity = stack.capacity := rfl

@[simp] theorem peek?_newest (stack : BoundedStack α) :
    stack.peek? = stack.entries.head? := rfl

@[simp] theorem pushAll_nil (stack : BoundedStack α) : stack.pushAll [] = stack := rfl

@[simp] theorem pushAll_cons (stack : BoundedStack α) (value : α) (values : List α) :
    stack.pushAll (value :: values) = (stack.push value).pushAll values := rfl

/-- Values that are pushed in two goes are pushed one after the other. -/
theorem pushAll_append (stack : BoundedStack α) (first second : List α) :
    stack.pushAll (first ++ second) = (stack.pushAll first).pushAll second :=
  List.foldl_append

@[simp] theorem capacity_pushAll (stack : BoundedStack α) (values : List α) :
    (stack.pushAll values).capacity = stack.capacity := by
  induction values generalizing stack with
  | nil => rfl
  | cons value values ih => simp [ih]

/-- Pushing values keeps the newest of all values offered. -/
theorem entries_pushAll (stack : BoundedStack α) (values : List α) :
    (stack.pushAll values).entries =
      (values.reverse ++ stack.entries).take stack.capacity := by
  induction values generalizing stack with
  | nil => simp [List.take_of_length_le stack.length_le]
  | cons value values ih =>
      simp only [pushAll_cons, ih, entries_push, capacity_push, List.reverse_cons,
        List.append_assoc, List.cons_append, List.nil_append]
      simp only [List.take_append, List.take_take]
      congr 2
      omega

/-- The top of a stack with any room at all is the value just pushed. -/
theorem head?_entries_push (stack : BoundedStack α) (value : α)
    (room : 0 < stack.capacity) : (stack.push value).entries.head? = some value := by
  obtain ⟨capacity, equal⟩ := Nat.exists_eq_succ_of_ne_zero (Nat.ne_of_gt room)
  simp [equal]

/-- A value that is pushed and popped again leaves what was there, but a full stack has forgotten
its oldest value for it. -/
theorem toList_pop_push {stack : BoundedStack α} (room : 0 < stack.capacity) (value : α) :
    (stack.push value).pop.toList =
      if stack.size = stack.capacity then stack.toList.tail else stack.toList := by
  obtain ⟨capacity, equal⟩ := Nat.exists_eq_succ_of_ne_zero (Nat.ne_of_gt room)
  have held := stack.length_le
  rw [toList, entries_pop, entries_push, equal, List.take_succ_cons, List.tail_cons, size, toList]
  rw [equal] at held
  split
  · rename_i full
    rw [List.tail_reverse, List.dropLast_eq_take, full, Nat.succ_sub_one]
  · rename_i free
    rw [List.take_of_length_le (Nat.le_of_lt_succ (Nat.lt_of_le_of_ne held free))]

end TextCursor.BoundedStack
