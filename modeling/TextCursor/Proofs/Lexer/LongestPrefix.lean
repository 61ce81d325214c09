/-!
# The longest beginning of a list that can be read

What a lexer should read next is often said as the longest beginning of what is
ahead that has a certain form.  Here this is a function of its own, which knows
nothing about the form: a list can be read or not.
-/

namespace TextCursor

variable {α β : Type}

/-- What the longest beginning of a list that can be read is read as. -/
def longestPrefix? (read : List α → Option β) : List α → Option β
  | [] => read []
  | value :: values => (longestPrefix? (fun rest => read (value :: rest)) values).or (read [])

variable {read : List α → Option β} {values : List α}

theorem longestPrefix?_eq_none_iff :
    longestPrefix? read values = none ↔
      ∀ beginning, beginning <+: values → read beginning = none := by
  induction values generalizing read with
  | nil => simp [longestPrefix?]
  | cons value values ih =>
      rw [longestPrefix?, Option.or_eq_none_iff, ih]
      constructor
      · rintro ⟨longer, empty⟩ beginning fits
        rcases List.prefix_cons_iff.1 fits with rfl | ⟨rest, rfl, restFits⟩
        · exact empty
        · exact longer rest restFits
      · intro unreadable
        constructor
        · intro rest fits
          exact unreadable _ ((List.prefix_cons_inj value).2 fits)
        · exact unreadable [] List.nil_prefix

/-- The beginning that counts can be read, and no longer one can. -/
theorem longestPrefix?_eq_some_iff {result : β} :
    longestPrefix? read values = some result ↔
      ∃ found, found <+: values ∧ read found = some result ∧
        ∀ other, other <+: values → (read other).isSome → other.length ≤ found.length := by
  induction values generalizing read with
  | nil => simp [longestPrefix?]
  | cons value values ih =>
      rw [longestPrefix?, Option.or_eq_some_iff, ih, longestPrefix?_eq_none_iff]
      constructor
      · rintro (⟨found, fits, reads, longest⟩ | ⟨unreadable, reads⟩)
        · refine ⟨value :: found, (List.prefix_cons_inj value).2 fits, reads, ?_⟩
          intro other otherFits readable
          rcases List.prefix_cons_iff.1 otherFits with rfl | ⟨rest, rfl, restFits⟩
          · exact Nat.zero_le _
          · exact Nat.succ_le_succ (longest rest restFits readable)
        · refine ⟨[], List.nil_prefix, reads, ?_⟩
          intro other otherFits readable
          rcases List.prefix_cons_iff.1 otherFits with rfl | ⟨rest, rfl, restFits⟩
          · exact Nat.le_refl _
          · rw [unreadable rest restFits] at readable
            cases readable
      · rintro ⟨found, fits, reads, longest⟩
        rcases List.prefix_cons_iff.1 fits with rfl | ⟨rest, rfl, restFits⟩
        · refine Or.inr ⟨?_, reads⟩
          intro rest restFits
          apply Option.eq_none_iff_forall_ne_some.2
          intro result readable
          have short := longest _ ((List.prefix_cons_inj value).2 restFits)
            (Option.isSome_of_eq_some readable)
          exact Nat.not_succ_le_zero _ short
        · refine Or.inl ⟨rest, restFits, reads, ?_⟩
          intro other otherFits readable
          have short := longest _ ((List.prefix_cons_inj value).2 otherFits) readable
          exact Nat.le_of_succ_le_succ short

/-- If every beginning that can be read is part of one beginning, and that one can be
read if any can, it is the one that counts. -/
theorem longestPrefix?_eq_of_bound {bound : List α} (fits : bound <+: values)
    (covers : ∀ other, other <+: values → (read other).isSome →
      other <+: bound ∧ (read bound).isSome) :
    longestPrefix? read values = read bound := by
  cases reads : read bound with
  | some result =>
      rw [longestPrefix?_eq_some_iff]
      refine ⟨bound, fits, reads, ?_⟩
      intro other otherFits readable
      exact (covers other otherFits readable).1.length_le
  | none =>
      rw [longestPrefix?_eq_none_iff]
      intro other otherFits
      apply Option.eq_none_iff_forall_ne_some.2
      intro result readable
      have bounded := (covers other otherFits (Option.isSome_of_eq_some readable)).2
      rw [reads] at bounded
      cases bounded

end TextCursor
