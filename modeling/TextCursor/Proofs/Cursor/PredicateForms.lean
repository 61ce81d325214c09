import TextCursor.Proofs.Cursor.StandardClass

/-!
# The forms of a predicate

What a run is to consist of can be said by a name, by a pattern, or by a test.  A name that a
pattern is registered for says the same as the pattern, and the pattern the same as the test
whether it matches the text of one character.  A name that stands for a text of one character says
the same as the test for that character (`predicate_forms_agree`).

Where a pattern matches is part of the pattern, and nothing is asked of it.  Each form decides one
character at a time (`Decides`), so it is enough that two of them decide alike.
-/

namespace TextCursor.Cursor

variable {σ : Type} {cursor : Cursor} {name : String}

/-- Two predicates read the same, while they hold and until they hold: the same text, with the
same state of the test, the same position and the same history behind it. -/
def ReadsAlike (cursor : Cursor) (predicate other : Predicate σ) : Prop :=
  ∀ state, cursor.readWhile predicate state = cursor.readWhile other state ∧
    cursor.readUntil predicate state = cursor.readUntil other state

theorem readsAlike_of_decides {predicate other : Predicate σ} {holds : Char → Bool}
    (decides : cursor.Decides predicate holds) (same : cursor.Decides other holds) :
    cursor.ReadsAlike predicate other := by
  intro state
  simp only [readWhile, readUntil, readRun_eq decides, readRun_eq same, and_self]

/-- A name that stands for a text of one character decides by that character. -/
theorem decides_name_of_char {char : Char}
    (stands : cursor.registry.textOf? name = some (String.singleton char)) :
    cursor.Decides (.name name : Predicate σ) (· == char) := by
  apply decides_of_judge
  intro state run first chars
  simp only [Predicate.judge, Registry.covers?_of_textOf? stands,
    prefixLength?_of_toList (String.toList_singleton char), List.head?_cons, Option.some.injEq]
  by_cases same : first = char <;> simp [same]

/-- The forms of a predicate agree, wherever the cursor is and whatever is registered: the name of
a pattern, the pattern, and the test whether it matches the text of one character; and a name that
stands for one character and the test for that character. -/
theorem predicate_forms_agree (cursor : Cursor) (name : String) :
    (∀ rule, cursor.registry.classify? name = some (.pattern rule) →
      cursor.ReadsAlike (.name name : Predicate σ) (.pattern rule) ∧
        cursor.ReadsAlike (.pattern rule : Predicate σ)
          (.test fun state char _ => (rule.search (String.singleton char), state))) ∧
    ∀ char, cursor.registry.textOf? name = some (String.singleton char) →
      cursor.ReadsAlike (.name name : Predicate σ)
        (.test fun state other _ => (other == char, state)) := by
  refine ⟨fun rule registered => ?_, fun char stands => ?_⟩
  · have pattern : cursor.Decides (.pattern rule : Predicate σ) rule.searchChar :=
      decides_pattern cursor rule
    exact ⟨readsAlike_of_decides (decides_name_of_pattern registered) pattern,
      readsAlike_of_decides pattern (decides_ofChar cursor rule.searchChar)⟩
  · exact readsAlike_of_decides (decides_name_of_char stands) (decides_ofChar cursor (· == char))

/-- A pattern that matches in every text but one, and a name that stands for a space, read while
it is there and until it is. -/
theorem predicate_forms_agree_spaces :
    (∃ cursor : Cursor, cursor.source = Source.ofString "12 b" ∧
      cursor.registry.classify? "odd" = some (.pattern ⟨"[^b]", (· != "b")⟩) ∧
      cursor.ReadsAlike (.name "odd" : Predicate Unit)
        (.test fun state char _ => (String.singleton char != "b", state))) ∧
      (ofString "12 b").readUntil (.name "_") () =
        (ofString "12 b").readUntil (.test fun state char _ => (char == ' ', state)) () ∧
      ((ofString "12 b").readUntil (.name "_") ()).text = "12" := by
  have space : Registry.standard.textOf? "_" = some (String.singleton ' ') := by
    have nameless : CharClass.ofName? "_" = none := by decide
    rw [Registry.textOf?, Registry.classify?_standard, nameless]
    exact congrArg some (by cbv)
  have same : (ofString "12 b").readUntil (.name "_") () =
      (ofString "12 b").readUntil (.test fun state char _ => (char == ' ', state)) () :=
    ((@predicate_forms_agree Unit (ofString "12 b") "_").2 ' ' space ()).2
  refine ⟨?_, same, ?_⟩
  · let rule : Pattern := ⟨"[^b]", (· != "b")⟩
    let cursor := ofString "12 b" { registry := Registry.empty.insertAll [("odd", .pattern rule)] }
    have registered : cursor.registry.classify? "odd" = some (.pattern rule) := by
      simp [cursor, Registry.classify?, Registry.insertAll, ofString]
    obtain ⟨named, tested⟩ := (@predicate_forms_agree Unit cursor "odd").1 rule registered
    exact ⟨cursor, rfl, registered, fun state =>
      ⟨(named state).1.trans (tested state).1, (named state).2.trans (tested state).2⟩⟩
  · rw [same]
    rfl

end TextCursor.Cursor
