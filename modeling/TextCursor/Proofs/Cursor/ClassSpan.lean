import TextCursor.Proofs.Cursor.Probing
import TextCursor.Proofs.Cursor.StandardClass

/-!
# How much a class consumes

A class is known by its name, and what the name stands for is up to the registry.  Where a class
fits, it consumes the next character if a pattern is registered for its name, and otherwise the
whole text that the name stands for (`Cursor.acceptClass_cases`).  So a class consumes one
character at a time with exactly those registries in which its name stands for no longer text
(`Cursor.takesOne_iff_span_le`).  For every class the standard registry is one of them
(`Registry.span_standard`), and the empty one is not (`Registry.two_le_span_empty`).  Whether a
name of single characters fits depends on the next character alone
(`Registry.CoversSingly.covers?_cons`).
-/

namespace TextCursor

namespace Registry

variable {registry : Registry} {name : String}

/-- The number of characters that a name covers wherever it covers any: one if a pattern is
registered for it, and otherwise as many as the text has that it stands for. -/
def span (registry : Registry) (name : String) : Nat :=
  (registry.textOf? name).elim 1 String.length

theorem span_of_textOf? {text : String} (stands : registry.textOf? name = some text) :
    registry.span name = text.length := by
  rw [span, stands]
  rfl

theorem span_of_pattern {rule : Pattern}
    (registered : registry.classify? name = some (.pattern rule)) : registry.span name = 1 := by
  rw [span, textOf?, registered]
  rfl

/-- Of a name that spans several characters it is a text that it stands for. -/
theorem exists_textOf?_of_one_lt_span (several : 1 < registry.span name) :
    ∃ text, registry.textOf? name = some text ∧ 1 < text.length := by
  rcases exists_textOf?_or_pattern registry name with ⟨text, stands⟩ | ⟨rule, registered⟩
  · rw [span_of_textOf? stands] at several
    exact ⟨text, stands, several⟩
  · rw [span_of_pattern registered] at several
    exact absurd several (Nat.lt_irrefl 1)

/-- A name covers as many characters as it spans, or none. -/
theorem eq_span_of_covers? {chars : List Char} {count : Nat}
    (covered : registry.covers? name chars = some count) : count = registry.span name := by
  obtain ⟨text, fits, rfl⟩ := covers?_eq_some_iff.1 covered
  rcases exists_textOf?_or_pattern registry name with ⟨stood, stands⟩ | ⟨rule, registered⟩
  · obtain ⟨-, rfl⟩ := (fits_iff_of_textOf? stands).1 fits
    exact (span_of_textOf? stands).symm
  · rw [span_of_pattern registered]
    exact fits.single rule registered

/-- A name covers single characters: a pattern is registered for it, or it stands for a text of
one character. -/
def CoversSingly (registry : Registry) (name : String) : Prop :=
  (∃ rule, registry.classify? name = some (.pattern rule)) ∨
    ∃ char, registry.textOf? name = some (String.singleton char)

theorem span_eq_one_iff : registry.span name = 1 ↔ registry.CoversSingly name := by
  constructor
  · intro single
    rcases exists_textOf?_or_pattern registry name with ⟨text, stands⟩ | pattern
    · rw [span_of_textOf? stands, ← String.length_toList, List.length_eq_one_iff] at single
      obtain ⟨char, spelled⟩ := single
      exact .inr ⟨char, eq_singleton_of_toList spelled ▸ stands⟩
    · exact .inl pattern
  · rintro (⟨rule, registered⟩ | ⟨char, stands⟩)
    · exact span_of_pattern registered
    · rw [span_of_textOf? stands, String.length_singleton]

/-- A name of single characters covers the next one if the registry accepts it under that name,
and what follows does not matter. -/
theorem CoversSingly.covers?_cons (single : registry.CoversSingly name) (char : Char)
    (chars : List Char) :
    registry.covers? name (char :: chars) =
      if registry.accepts name (String.singleton char) then some 1 else none := by
  rcases single with ⟨rule, registered⟩ | ⟨only, stands⟩
  · rw [accepts_of_pattern registered, covers?, registered]
  · rw [covers?_of_textOf? stands, prefixLength?_of_toList (String.toList_singleton only)]
    simp only [accepts_of_textOf? stands, List.head?_cons, Option.some.injEq,
      String.singleton_inj, eq_comm]

theorem span_standard (charClass : CharClass) : standard.span charClass.name = 1 := by
  rw [span, textOf?, classify?_standard_name]
  cases charClass <;> rfl

/-- Without classes a name stands for its own text. -/
theorem textOf?_empty (name : String) :
    empty.textOf? name = some (ClassName.literalText name) := by
  have missing : empty.classify? name = none := by
    simp only [classify?, getElem?_empty, ite_self]
  rw [textOf?, missing]

/-- Without classes the name of a class stands for a text of several letters. -/
theorem two_le_span_empty (charClass : CharClass) : 2 ≤ empty.span charClass.name := by
  rw [span_of_textOf? (textOf?_empty _), ClassName.length_literalText]
  cases charClass <;> decide

end Registry

namespace Cursor

variable {cursor : Cursor} {charClass : CharClass}

/-- A class refuses and nothing changes, or there was a next character and the class has consumed
one. -/
def TakesOne (cursor : Cursor) (charClass : CharClass) : Prop :=
  cursor.acceptClass charClass = (false, cursor) ∨
    (∃ char, cursor.peek? = some char) ∧ (cursor.acceptClass charClass).1 = true ∧
      (cursor.acceptClass charClass).2.position = cursor.position + 1

/-- A class refuses and nothing changes, or something was ahead and the class has consumed what its
name spans. -/
theorem acceptClass_cases (cursor : Cursor) (charClass : CharClass) :
    cursor.acceptClass charClass = (false, cursor) ∨
      (∃ char, cursor.peek? = some char) ∧ 0 < cursor.registry.span charClass.name ∧
        cursor.acceptClass charClass =
          (true, cursor.consume (cursor.registry.span charClass.name)) := by
  cases covered : cursor.registry.covers? charClass.name cursor.ahead with
  | none => exact .inl (accept_of_not_covers covered)
  | some count =>
      right
      obtain rfl := Registry.eq_span_of_covers? covered
      obtain ⟨positive, available⟩ := probe?_bounds ((probe?_eq cursor _).trans covered)
      refine ⟨?_, positive, accept_of_covers covered⟩
      rw [← length_ahead] at available
      obtain ⟨char, chars, some⟩ :=
        List.exists_cons_of_length_pos (Nat.lt_of_lt_of_le positive available)
      rw [peek?_eq, some]
      exact ⟨char, rfl⟩

theorem takesOne_of_span_le (short : cursor.registry.span charClass.name ≤ 1) :
    cursor.TakesOne charClass := by
  rcases acceptClass_cases cursor charClass with refused | ⟨next, positive, accepted⟩
  · exact .inl refused
  · have single : cursor.registry.span charClass.name = 1 := Nat.le_antisymm short positive
    rw [single] at accepted
    refine .inr ⟨next, ?_, ?_⟩
    · rw [accepted]
    · rw [accepted, position_consume]
      rfl

/-- Where the text of a class is ahead, the class consumes all of it. -/
theorem not_takesOne_of_textOf? {text : String}
    (stands : cursor.registry.textOf? charClass.name = some text) (several : 1 < text.length)
    (begins : text.toList <+: cursor.ahead) : ¬ cursor.TakesOne charClass := by
  have some : text ≠ "" := by
    rintro rfl
    cases several
  have covered : cursor.registry.covers? charClass.name cursor.ahead = .some text.length := by
    rw [Registry.covers?_of_textOf? stands, prefixLength?, if_pos ⟨some, begins⟩]
  have accepted : cursor.acceptClass charClass = (true, cursor.consume text.length) :=
    accept_of_covers covered
  rintro (refused | ⟨-, -, moved⟩)
  · rw [accepted] at refused
    cases refused
  · rw [accepted, position_consume] at moved
    omega

/-- A class consumes one character at a time, on every cursor with a registry, exactly if its name
spans no more there. -/
theorem takesOne_iff_span_le (registry : Registry) (charClass : CharClass) :
    (∀ cursor : Cursor, cursor.registry = registry → cursor.TakesOne charClass) ↔
      registry.span charClass.name ≤ 1 := by
  constructor
  · intro always
    refine Nat.le_of_not_lt fun several => ?_
    obtain ⟨text, stands, long⟩ := Registry.exists_textOf?_of_one_lt_span several
    -- The text itself is a source at whose start the class fits.
    have begins : text.toList <+: (ofString text { registry }).ahead := by
      rw [ahead_of_started (Int.le_refl _)]
      exact List.prefix_refl _
    exact not_takesOne_of_textOf? stands long begins (always _ rfl)
  · rintro short cursor rfl
    exact takesOne_of_span_le short

/-- What a class consumes where it fits is what its name spans in the registry of the cursor, and
so it consumes one character at a time just with the registries in which that is one character
at most, as with the standard classes and not without any. -/
theorem acceptClass_consumes_span (charClass : CharClass) :
    (∀ cursor : Cursor, cursor.acceptClass charClass = (false, cursor) ∨
      (∃ char, cursor.peek? = some char) ∧ 0 < cursor.registry.span charClass.name ∧
        cursor.acceptClass charClass =
          (true, cursor.consume (cursor.registry.span charClass.name))) ∧
    (∀ registry : Registry,
      (∀ cursor : Cursor, cursor.registry = registry → cursor.TakesOne charClass) ↔
        registry.span charClass.name ≤ 1) ∧
    Registry.standard.span charClass.name = 1 ∧ 2 ≤ Registry.empty.span charClass.name :=
  ⟨fun cursor => acceptClass_cases cursor charClass,
    fun registry => takesOne_iff_span_le registry charClass,
    Registry.span_standard charClass, Registry.two_le_span_empty charClass⟩

/-- Without classes the class of digits consumes five letters. -/
theorem digit_consumes_letters :
    (ofString "digits" ⟨20, Registry.empty⟩).acceptClass .digit =
        (true, (ofString "digits" ⟨20, Registry.empty⟩).consume 5) ∧
      ((ofString "digits" ⟨20, Registry.empty⟩).acceptClass .digit).2.position = 4 ∧
      ¬ ∀ (cursor : Cursor) (charClass : CharClass), cursor.TakesOne charClass := by
  have covered : Registry.empty.covers? CharClass.digit.name
      (ofString "digits" ⟨20, Registry.empty⟩).ahead = some 5 := by
    have verbatim := (ClassName.isVerbatim_iff CharClass.digit.name).1 (by decide)
    rw [Registry.covers?_of_textOf? (Registry.textOf?_empty _), verbatim,
      ahead_of_started (Int.le_refl _)]
    decide
  have accepted : (ofString "digits" ⟨20, Registry.empty⟩).acceptClass .digit =
      (true, (ofString "digits" ⟨20, Registry.empty⟩).consume 5) := accept_of_covers covered
  have behind :
      ((ofString "digits" ⟨20, Registry.empty⟩).acceptClass .digit).2.position = 4 := by
    rw [accepted]
    rfl
  refine ⟨accepted, behind, fun always => ?_⟩
  rcases always (ofString "digits" ⟨20, Registry.empty⟩) .digit with refused | ⟨-, -, moved⟩
  · rw [refused] at accepted
    cases accepted
  · rw [behind] at moved
    exact absurd moved (by decide)

end Cursor

end TextCursor
