import Mathlib.Data.List.TakeWhile

/-!
# Runs at the beginning of a list

A run ends where something else begins, or the list does.
-/

namespace TextCursor

variable {α : Type} {holds : α → Bool} {run rest : List α}

/-- What does not begin with a run adds nothing to the run before it. -/
theorem takeWhile_append_of_stop (stop : ∀ value ∈ rest.head?, holds value = false)
    (values : List α) : (values ++ rest).takeWhile holds = values.takeWhile holds := by
  induction values with
  | nil =>
      cases rest with
      | nil => rfl
      | cons value rest => simp [stop value rfl]
  | cons value values ih => rw [List.cons_append, List.takeWhile_cons, List.takeWhile_cons, ih]

theorem takeWhile_run (only : ∀ value ∈ run, holds value = true)
    (stop : ∀ value ∈ rest.head?, holds value = false) :
    (run ++ rest).takeWhile holds = run := by
  rw [takeWhile_append_of_stop stop, List.takeWhile_eq_self_iff.2 only]

theorem dropWhile_run (only : ∀ value ∈ run, holds value = true)
    (stop : ∀ value ∈ rest.head?, holds value = false) :
    (run ++ rest).dropWhile holds = rest := by
  rw [List.dropWhile_append_of_pos only]
  cases rest with
  | nil => rfl
  | cons value rest => simp [stop value rfl]

/-- Behind a run is what is left when the run is dropped. -/
theorem drop_length_takeWhile (holds : α → Bool) (values : List α) :
    values.drop (values.takeWhile holds).length = values.dropWhile holds := by
  have split := congrArg (List.drop (values.takeWhile holds).length)
    (List.takeWhile_append_dropWhile (p := holds) (l := values))
  rw [List.drop_left] at split
  exact split.symm

end TextCursor
