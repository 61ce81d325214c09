import TextCursor.BoundedStack.Lemmas
import TextCursor.BoundedStack.Operation

/-!
# Where values go

A bounded stack is put beside one that forgets nothing.  It holds the newest values of that
one (`NewestOf`), and it answers alike for as long as it holds any.  What it has lost is
accounted for: a value that was ever put on it is still held, or it was popped, evicted or
cleared, and evictions follow the order of pushes (`Balanced`).  Equal values can be pushed
more than once, so the pushes are numbered (`number`) before they are followed.
-/

namespace TextCursor.BoundedStack

universe u v

variable {α : Type u} {β : Type v}

/-! ## The view of each operation -/

/-- The values held and the new one are those held afterwards, behind the one that is
forgotten. -/
theorem toList_push (stack : BoundedStack α) (value : α) :
    (stack.evicted? value).toList ++ (stack.push value).toList = stack.toList ++ [value] := by
  have whole : (value :: stack.entries).take (stack.capacity + 1) = value :: stack.entries :=
    List.take_of_length_le (Nat.succ_le_succ stack.length_le)
  have split := congrArg List.reverse (List.take_add_one.symm.trans whole)
  rw [List.reverse_append, List.reverse_cons] at split
  rw [toList, entries_push, toList, ← split, evicted?]
  cases (value :: stack.entries)[stack.capacity]? <;> rfl

theorem toList_pushAll (stack : BoundedStack α) (values : List α) :
    stack.evictions values ++ (stack.pushAll values).toList = stack.toList ++ values := by
  induction values generalizing stack with
  | nil => exact (List.append_nil _).symm
  | cons value values ih =>
      rw [evictions, pushAll_cons, List.append_assoc, ih, ← List.append_assoc, toList_push,
        List.append_assoc, List.singleton_append]

theorem peek?_eq_getLast? (stack : BoundedStack α) : stack.peek? = stack.toList.getLast? :=
  List.getLast?_reverse.symm

theorem toList_pop (stack : BoundedStack α) : stack.pop.toList = stack.toList.dropLast :=
  List.dropLast_reverse.symm

/-- The values held are those held after a pop and the one that it removes. -/
theorem toList_pop_append (stack : BoundedStack α) :
    stack.pop.toList ++ stack.peek?.toList = stack.toList := by
  rw [toList, toList, entries_pop, peek?_newest]
  cases stack.entries with
  | nil => rfl
  | cons value older => exact List.reverse_cons.symm

theorem capacity_perform (stack : BoundedStack α) (operation : Operation α) :
    (stack.perform operation).capacity = stack.capacity := by
  cases operation with
  | pushAll values => exact capacity_pushAll stack values
  | _ => rfl

theorem capacity_after (stack : BoundedStack α) (operations : List (Operation α)) :
    (stack.after operations).capacity = stack.capacity := by
  induction operations generalizing stack with
  | nil => rfl
  | cons operation operations ih => rw [after, ih, capacity_perform]

/-- A push forgets a value exactly if the stack is full. -/
theorem isSome_evicted?_iff (stack : BoundedStack α) (value : α) :
    (stack.evicted? value).isSome = true ↔ stack.size = stack.capacity := by
  have held := stack.length_le
  rw [evicted?, isSome_getElem?, List.length_cons, size]
  omega

/-- What a full stack forgets is its oldest value, or the new one if it has no room. -/
theorem evicted?_of_full {stack : BoundedStack α} (full : stack.size = stack.capacity)
    (value : α) :
    stack.evicted? value = if stack.capacity = 0 then some value else stack.peek? .oldest := by
  rw [evicted?, ← full, size]
  split
  · rename_i empty
    rw [empty]
    rfl
  · rename_i room
    obtain ⟨count, size⟩ := Nat.exists_eq_succ_of_ne_zero room
    rw [size, List.getElem?_cons_succ, peek?, List.getLast?_eq_getElem?, size]
    rfl

/-! ## A stack that forgets nothing -/

/-- What an operation does to values of which none is ever forgotten, the oldest first. -/
def Operation.onList : Operation α → List α → List α
  | .push value, values => values ++ [value]
  | .pop, values => values.dropLast
  | .clear, _ => []
  | .pushAll more, values => values ++ more

/-- The values behind several operations if none is ever forgotten. -/
def unbounded (operations : List (Operation α)) : List α :=
  operations.foldl (fun values operation => operation.onList values) []

/-- The stack holds the newest of the values, and as long as it holds any it answers as a
stack that holds them all. -/
structure NewestOf (stack : BoundedStack α) (values : List α) : Prop where
  suffix : stack.toList <:+ values
  peek?_eq : stack.isEmpty = false → stack.peek? = values.getLast?
  answer?_pop : stack.isEmpty = false → stack.answer? .pop = values.getLast?

namespace NewestOf

variable {stack : BoundedStack α} {values : List α}

theorem of_suffix (suffix : stack.toList <:+ values) : NewestOf stack values := by
  have top : stack.isEmpty = false → stack.peek? = values.getLast? := by
    intro held
    have some : stack.toList ≠ [] := by
      rw [toList, ne_eq, List.reverse_eq_nil_iff, ← List.isEmpty_iff]
      exact Bool.eq_false_iff.1 held
    obtain ⟨older, rfl⟩ := suffix
    rw [peek?_eq_getLast?, List.getLast?_append, Option.or_of_isSome]
    exact List.getLast?_isSome.2 some
  exact ⟨suffix, top, top⟩

/-- Values that are put on both keep it so, whatever is forgotten. -/
theorem of_evicted {later : BoundedStack α} {evicted pushed : List α}
    (newest : NewestOf stack values) (split : evicted ++ later.toList = stack.toList ++ pushed) :
    NewestOf later (values ++ pushed) := by
  have grown : stack.toList ++ pushed <:+ values ++ pushed :=
    List.suffix_append_self_iff.2 newest.suffix
  rw [← split] at grown
  exact of_suffix ((List.suffix_append _ _).trans grown)

theorem perform (newest : NewestOf stack values) (operation : Operation α) :
    NewestOf (stack.perform operation) (operation.onList values) := by
  cases operation with
  | push value => exact newest.of_evicted (toList_push stack value)
  | pop =>
      apply of_suffix
      obtain ⟨older, split⟩ := newest.suffix
      show stack.pop.toList <:+ values.dropLast
      rw [toList_pop, ← split]
      by_cases held : stack.toList = []
      · rw [held]
        exact List.nil_suffix
      · rw [List.dropLast_append_of_ne_nil held]
        exact List.suffix_append _ _
  | clear => exact of_suffix List.nil_suffix
  | pushAll more => exact newest.of_evicted (toList_pushAll stack more)

theorem after (newest : NewestOf stack values) (operations : List (Operation α)) :
    NewestOf (stack.after operations)
      (operations.foldl (fun values operation => operation.onList values) values) := by
  induction operations generalizing stack values with
  | nil => exact newest
  | cons operation operations ih => exact ih (newest.perform operation)

end NewestOf

/-! ## One place for each value -/

/-- The values held at first and those pushed are, each in one place, the values held in the
end and those that left.  What was evicted comes before what is held, in the order in which
all of them were put on the stack. -/
structure Balanced (first pushed : List α) (ledger : Ledger α) (last : List α) : Prop where
  places : (first ++ pushed).Perm (last ++ ledger.popped ++ ledger.evicted ++ ledger.cleared)
  ordered : (ledger.evicted ++ last).Sublist (first ++ pushed)

namespace Balanced

variable {first middle last pushed more : List α} {ledger further : Ledger α}

theorem refl (values : List α) : Balanced values [] {} values := by
  constructor <;> simp

theorem trans (second : Balanced middle more further last)
    (start : Balanced first pushed ledger middle) :
    Balanced first (pushed ++ more) (ledger ++ further) last := by
  constructor
  · classical
    refine List.perm_iff_count.2 fun value => ?_
    have before := start.places.count_eq value
    have later := second.places.count_eq value
    simp only [List.count_append, Ledger.popped_append, Ledger.evicted_append,
      Ledger.cleared_append] at before later ⊢
    omega
  · rw [Ledger.evicted_append, List.append_assoc, ← List.append_assoc first]
    have later := (List.append_sublist_append_left ledger.evicted).2 second.ordered
    rw [← List.append_assoc ledger.evicted middle] at later
    exact later.trans ((List.append_sublist_append_right more).2 start.ordered)

/-- Values that are put on at one end and leave at the other. -/
theorem of_evicted {evicted : List α} (split : evicted ++ last = first ++ pushed) :
    Balanced first pushed { evicted := evicted } last := by
  constructor
  · simp only [List.append_nil]
    rw [← split]
    exact List.perm_append_comm
  · exact split ▸ List.Sublist.refl _

/-- Values that leave at the end where values are put on. -/
theorem of_popped {popped : List α} (split : last ++ popped = first) :
    Balanced first [] { popped := popped } last := by
  constructor
  · simp only [List.append_nil]
    exact split ▸ List.Perm.refl _
  · rw [List.append_nil, ← split]
    exact List.sublist_append_left _ _

theorem of_cleared (values : List α) : Balanced values [] { cleared := values } [] := by
  constructor
  · simp only [List.append_nil, List.nil_append]
    exact List.Perm.refl _
  · exact List.nil_sublist _

theorem perform (stack : BoundedStack α) (operation : Operation α) :
    Balanced stack.toList operation.pushed (stack.leaving operation)
      (stack.perform operation).toList := by
  cases operation with
  | push value => exact of_evicted (toList_push stack value)
  | pop => exact of_popped (toList_pop_append stack)
  | clear => exact of_cleared stack.toList
  | pushAll values => exact of_evicted (toList_pushAll stack values)

theorem after (stack : BoundedStack α) (operations : List (Operation α)) :
    Balanced stack.toList (operations.flatMap Operation.pushed) (stack.ledger operations)
      (stack.after operations).toList := by
  induction operations generalizing stack with
  | nil => exact refl _
  | cons operation operations ih => exact (ih _).trans (perform stack operation)

end Balanced

/-! ## Replaced values

What happens to a value does not depend on what it is. -/

/-- The same stack with each value replaced. -/
def map (image : α → β) (stack : BoundedStack α) : BoundedStack β where
  entries := stack.entries.map image
  capacity := stack.capacity
  length_le := by
    rw [List.length_map]
    exact stack.length_le

def Operation.map (image : α → β) : Operation α → Operation β
  | .push value => .push (image value)
  | .pop => .pop
  | .clear => .clear
  | .pushAll values => .pushAll (values.map image)

def Ledger.map (image : α → β) (ledger : Ledger α) : Ledger β where
  popped := ledger.popped.map image
  evicted := ledger.evicted.map image
  cleared := ledger.cleared.map image

theorem Ledger.map_append (image : α → β) (first second : Ledger α) :
    (first ++ second).map image = first.map image ++ second.map image := by
  simp only [map, popped_append, evicted_append, cleared_append, List.map_append]
  rfl

section Map

variable (image : α → β) (stack : BoundedStack α)

@[simp] theorem entries_map : (stack.map image).entries = stack.entries.map image := rfl

@[simp] theorem capacity_map : (stack.map image).capacity = stack.capacity := rfl

theorem toList_map : (stack.map image).toList = stack.toList.map image := List.map_reverse.symm

theorem push_map (value : α) :
    (stack.map image).push (image value) = (stack.push value).map image := by
  ext1
  · simp only [entries_push, entries_map, capacity_map, List.map_take, List.map_cons]
  · rfl

theorem pop_map : (stack.map image).pop = stack.pop.map image := by
  ext1
  · exact List.map_tail.symm
  · rfl

theorem evicted?_map (value : α) :
    (stack.map image).evicted? (image value) = (stack.evicted? value).map image := by
  rw [evicted?, entries_map, capacity_map, ← List.map_cons, List.getElem?_map, evicted?]

theorem pushAll_map (values : List α) :
    (stack.map image).pushAll (values.map image) = (stack.pushAll values).map image := by
  induction values generalizing stack with
  | nil => rfl
  | cons value values ih => rw [List.map_cons, pushAll_cons, push_map, ih, pushAll_cons]

theorem evictions_map (values : List α) :
    (stack.map image).evictions (values.map image) = (stack.evictions values).map image := by
  induction values generalizing stack with
  | nil => rfl
  | cons value values ih =>
      rw [List.map_cons, evictions, evictions, push_map, ih, evicted?_map, Option.toList_map,
        List.map_append]

theorem perform_map (operation : Operation α) :
    (stack.map image).perform (operation.map image) = (stack.perform operation).map image := by
  cases operation with
  | push value => exact push_map image stack value
  | pop => exact pop_map image stack
  | clear => rfl
  | pushAll values => exact pushAll_map image stack values

theorem leaving_map (operation : Operation α) :
    (stack.map image).leaving (operation.map image) = (stack.leaving operation).map image := by
  cases operation with
  | push value =>
      simp only [leaving, Operation.map, Ledger.map, evicted?_map, Option.toList_map, List.map_nil]
  | pop =>
      simp only [leaving, Operation.map, Ledger.map, peek?_newest, entries_map, List.head?_map,
        Option.toList_map, List.map_nil]
  | clear => simp only [leaving, Operation.map, Ledger.map, toList_map, List.map_nil]
  | pushAll values => simp only [leaving, Operation.map, Ledger.map, evictions_map, List.map_nil]

theorem after_map (operations : List (Operation α)) :
    (stack.map image).after (operations.map (Operation.map image)) =
      (stack.after operations).map image := by
  induction operations generalizing stack with
  | nil => rfl
  | cons operation operations ih => rw [List.map_cons, after, perform_map, ih, after]

theorem ledger_map (operations : List (Operation α)) :
    (stack.map image).ledger (operations.map (Operation.map image)) =
      (stack.ledger operations).map image := by
  induction operations generalizing stack with
  | nil => rfl
  | cons operation operations ih =>
      rw [List.map_cons, ledger, perform_map, leaving_map, ih, ledger, Ledger.map_append]

end Map

/-! ## Numbered values -/

/-- The operation with every value that it pushes numbered, from the given number on. -/
def Operation.number (next : Nat) : Operation α → Operation (α × Nat)
  | .push value => .push (value, next)
  | .pop => .pop
  | .clear => .clear
  | .pushAll values => .pushAll (values.zipIdx next)

/-- The operations with all pushed values numbered in the order in which they are pushed. -/
def number (next : Nat) : List (Operation α) → List (Operation (α × Nat))
  | [] => []
  | operation :: operations =>
      operation.number next :: number (next + operation.pushed.length) operations

theorem map_number (next : Nat) (operations : List (Operation α)) :
    (number next operations).map (Operation.map Prod.fst) = operations := by
  induction operations generalizing next with
  | nil => rfl
  | cons operation operations ih =>
      have first : (operation.number next).map Prod.fst = operation := by
        cases operation with
        | pushAll values => exact congrArg Operation.pushAll (List.zipIdx_map_fst next values)
        | _ => rfl
      rw [number, List.map_cons, first, ih]

theorem pushed_number (next : Nat) (operations : List (Operation α)) :
    (number next operations).flatMap Operation.pushed =
      (operations.flatMap Operation.pushed).zipIdx next := by
  induction operations generalizing next with
  | nil => rfl
  | cons operation operations ih =>
      have first : (operation.number next).pushed = operation.pushed.zipIdx next := by
        cases operation <;> rfl
      rw [number, List.flatMap_cons, List.flatMap_cons, List.zipIdx_append, first, ih]

/-- Whatever is done with a new stack, it holds no more values than its capacity allows, and they
are the newest of a stack without bound, whose answers it gives while it holds any.  A push makes
it forget a value exactly if it is full: its oldest one, or the new one if it has no room at all.
The pushed values are numbered to tell equal ones apart: in the end each of them is in exactly one
place, held, popped, evicted or cleared, and they are evicted in the order of the pushes. -/
theorem after_empty_accounted (capacity : Nat) (operations : List (Operation α)) :
    let stack := (empty capacity : BoundedStack α).after operations
    let numbered := (empty capacity : BoundedStack (α × Nat)).after (number 0 operations)
    let ledger := (empty capacity : BoundedStack (α × Nat)).ledger (number 0 operations)
    stack.size ≤ capacity ∧
      stack.NewestOf (unbounded operations) ∧
      (∀ value,
        ((stack.answer? (.push value)).isSome = true ↔ stack.size = capacity) ∧
        (stack.size = capacity → stack.answer? (.push value) =
          if capacity = 0 then some value else stack.peek? .oldest)) ∧
      numbered.map Prod.fst = stack ∧
      ledger.map Prod.fst = (empty capacity : BoundedStack α).ledger operations ∧
      Balanced [] (operations.flatMap Operation.pushed).zipIdx ledger numbered.toList := by
  intro stack numbered ledger
  have room : stack.capacity = capacity := capacity_after _ operations
  refine ⟨?_, ?_, fun value => ⟨?_, fun full => ?_⟩, ?_, ?_, ?_⟩
  · rw [← room]
    exact stack.length_le
  · exact (NewestOf.of_suffix List.suffix_rfl).after operations
  · rw [← room]
    exact isSome_evicted?_iff stack value
  · rw [← room] at full ⊢
    exact evicted?_of_full full value
  · have erased := after_map Prod.fst (empty capacity) (number 0 operations)
    rw [map_number] at erased
    exact erased.symm
  · have erased := ledger_map Prod.fst (empty capacity) (number 0 operations)
    rw [map_number] at erased
    exact erased.symm
  · have balanced := Balanced.after (empty capacity) (number 0 operations)
    rw [pushed_number] at balanced
    exact balanced

/-- Equal values are told apart by their numbers: the first two are evicted, the last is popped
and the one before it cleared. -/
example : (empty 2 : BoundedStack (Char × Nat)).ledger
    (number 0 [.push 'a', .pushAll ['b', 'a', 'b'], .pop, .clear]) =
      ⟨[('b', 3)], [('a', 0), ('b', 1)], [('a', 2)]⟩ := by decide

end TextCursor.BoundedStack
