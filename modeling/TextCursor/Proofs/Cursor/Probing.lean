import TextCursor.Cursor.Operation
import TextCursor.Proofs.Cursor.TextSearch

/-!
# Probing and the registry

A registry decides whether a text belongs to a name, and a cursor decides how much of what is
ahead a name covers.  The two go their own ways through literals, patterns and names that stand
for themselves, and come to the same: what is covered is the one beginning of the remaining text
that fits the name (`Registry.covers?_eq_some_iff`, `Registry.Fits.unique`).  Of several names the
first one that covers anything is consumed, be it the longest or not
(`Cursor.exists_first_of_acceptAny`).
-/

namespace TextCursor

theorem eq_singleton_of_toList {text : String} {char : Char} (spelled : text.toList = [char]) :
    text = String.singleton char := by
  rw [← String.toList_inj, spelled, String.toList_singleton]

/-! ## Texts that fit -/

/-- A text fits a name in front of characters: the characters begin with it, the registry lets it
belong to the name, and it is a single character if the name is one of a pattern. -/
structure Registry.Fits (registry : Registry) (name text : String) (chars : List Char) :
    Prop where
  ne_empty : text ≠ ""
  isPrefix : text.toList <+: chars
  accepts : registry.accepts name text = true
  single : ∀ rule, registry.classify? name = some (.pattern rule) → text.length = 1

namespace Registry

variable {registry : Registry} {name text : String} {chars : List Char}

/-- A name that stands for a text accepts that text and no other. -/
theorem accepts_of_textOf? (stands : registry.textOf? name = some text) (candidate : String) :
    registry.accepts name candidate = true ↔ text = candidate := by
  rcases classify?_of_textOf? stands with registered | ⟨registered, rfl⟩ <;>
    simp only [accepts, registered] <;> exact beq_iff_eq

/-- The name of a pattern accepts a single character that the pattern matches. -/
theorem accepts_of_pattern {rule : Pattern}
    (registered : registry.classify? name = some (.pattern rule)) (char : Char) :
    registry.accepts name (String.singleton char) = rule.searchChar char := by
  simp only [accepts, registered, Matcher.accepts, Pattern.searchChar]

/-- A name stands for a text, unless a pattern is registered for it. -/
theorem exists_textOf?_or_pattern (registry : Registry) (name : String) :
    (∃ text, registry.textOf? name = some text) ∨
      ∃ rule, registry.classify? name = some (.pattern rule) := by
  cases registered : registry.classify? name with
  | none => exact .inl ⟨_, by rw [textOf?, registered]⟩
  | some matcher =>
      cases matcher with
      | literal text => exact .inl ⟨text, by rw [textOf?, registered]⟩
      | pattern rule => exact .inr ⟨rule, rfl⟩

theorem not_pattern_of_textOf? (stands : registry.textOf? name = some text) (rule : Pattern) :
    registry.classify? name ≠ some (.pattern rule) := by
  intro registered
  rw [textOf?, registered] at stands
  cases stands

/-- What fits a name that stands for a text is that text, where it is ahead and not empty. -/
theorem fits_iff_of_textOf? (stands : registry.textOf? name = some text) {other : String} :
    registry.Fits name other chars ↔ (text ≠ "" ∧ text.toList <+: chars) ∧ text = other := by
  constructor
  · intro fits
    obtain rfl := (accepts_of_textOf? stands other).1 fits.accepts
    exact ⟨⟨fits.ne_empty, fits.isPrefix⟩, rfl⟩
  · rintro ⟨⟨some, begins⟩, rfl⟩
    refine ⟨some, begins, (accepts_of_textOf? stands text).2 rfl, ?_⟩
    intro rule registered
    exact absurd registered (not_pattern_of_textOf? stands rule)

/-- What fits the name of a pattern is the next character, where the pattern matches it. -/
theorem fits_iff_of_pattern {rule : Pattern}
    (registered : registry.classify? name = some (.pattern rule)) :
    registry.Fits name text chars ↔
      ∃ char rest, chars = char :: rest ∧ rule.searchChar char = true ∧
        text = String.singleton char := by
  constructor
  · intro fits
    obtain ⟨char, spelled⟩ := List.length_eq_one_iff.1 (fits.single rule registered)
    obtain ⟨rest, begins⟩ := fits.isPrefix
    have same : text = String.singleton char := eq_singleton_of_toList spelled
    have matched := fits.accepts
    rw [same, accepts_of_pattern registered] at matched
    refine ⟨char, rest, ?_, matched, same⟩
    rw [← begins, same, String.toList_singleton]
    rfl
  · rintro ⟨char, rest, rfl, matched, rfl⟩
    refine ⟨?_, ?_, ?_, ?_⟩
    · exact String.singleton_ne_empty
    · rw [String.toList_singleton]
      exact List.prefix_append [char] rest
    · rw [accepts_of_pattern registered, matched]
    · intro _ _
      exact String.length_singleton

/-- At most one text fits a name. -/
theorem Fits.unique {other : String} (fits : registry.Fits name text chars)
    (fitsToo : registry.Fits name other chars) : text = other := by
  rcases exists_textOf?_or_pattern registry name with ⟨stood, stands⟩ | ⟨rule, registered⟩
  · rw [fits_iff_of_textOf? stands] at fits fitsToo
    exact fits.2.symm.trans fitsToo.2
  · rw [fits_iff_of_pattern registered] at fits fitsToo
    obtain ⟨char, rest, rfl, -, rfl⟩ := fits
    obtain ⟨first, others, same, -, rfl⟩ := fitsToo
    cases same
    rfl

/-- A name covers as many characters as the text that fits it has. -/
theorem covers?_eq_some_iff {count : Nat} :
    registry.covers? name chars = some count ↔
      ∃ text, registry.Fits name text chars ∧ text.length = count := by
  rcases exists_textOf?_or_pattern registry name with ⟨text, stands⟩ | ⟨rule, registered⟩
  · simp only [covers?_of_textOf? stands, fits_iff_of_textOf? stands, prefixLength?,
      Option.ite_none_right_eq_some, Option.some.injEq]
    constructor
    · rintro ⟨begins, size⟩
      exact ⟨text, ⟨begins, rfl⟩, size⟩
    · rintro ⟨other, ⟨begins, rfl⟩, size⟩
      exact ⟨begins, size⟩
  · simp only [fits_iff_of_pattern registered, covers?, registered]
    constructor
    · intro covered
      cases chars with
      | nil => cases covered
      | cons char rest =>
          simp only [Option.ite_none_right_eq_some, Option.some.injEq] at covered
          obtain ⟨matched, rfl⟩ := covered
          exact ⟨_, ⟨char, rest, rfl, matched, rfl⟩, String.length_singleton⟩
    · rintro ⟨text, ⟨char, rest, rfl, matched, rfl⟩, rfl⟩
      simp only [matched, if_true, String.length_singleton]

end Registry

namespace Cursor

variable {cursor : Cursor}

/-- What a name covers of what is ahead fits it. -/
theorem probe?_eq_some_iff {name : String} {count : Nat} :
    cursor.probe? name = some count ↔
      ∃ text, cursor.registry.Fits name text cursor.remaining.toList ∧ text.length = count := by
  rw [probe?_eq]
  exact Registry.covers?_eq_some_iff

theorem check_eq_true_iff {name : String} :
    cursor.check name = true ↔
      ∃ text, cursor.registry.Fits name text cursor.remaining.toList := by
  rw [check, Option.isSome_iff_exists]
  constructor
  · rintro ⟨count, covered⟩
    obtain ⟨text, fits, -⟩ := probe?_eq_some_iff.1 covered
    exact ⟨text, fits⟩
  · rintro ⟨text, fits⟩
    exact ⟨text.length, probe?_eq_some_iff.2 ⟨text, fits, rfl⟩⟩

theorem check_eq_false_iff {name : String} :
    cursor.check name = false ↔ cursor.probe? name = none := by
  rw [check, Option.isSome_eq_false_iff, Option.isNone_iff_eq_none]

/-- One of several names is accepted if any of them covers something ahead. -/
theorem acceptAny_eq_true_iff {candidates : List String} :
    (cursor.acceptAny candidates).1 = true ↔ ∃ name ∈ candidates, cursor.check name = true := by
  have accepted : (cursor.acceptAny candidates).1 = (cursor.probeAny? candidates).isSome := by
    rw [acceptAny]
    cases cursor.probeAny? candidates <;> rfl
  rw [accepted, probeAny?, List.isSome_findSome?, List.any_eq_true]
  rfl

/-- The first of several names that covers something is the one that is consumed. -/
theorem exists_first_of_acceptAny {candidates : List String}
    (accepted : (cursor.acceptAny candidates).1 = true) :
    ∃ before name behind text, candidates = before ++ name :: behind ∧
      (∀ other ∈ before, cursor.check other = false) ∧
      cursor.registry.Fits name text cursor.remaining.toList ∧
      (cursor.acceptAny candidates).2 =
        { cursor with
          position := cursor.position + text.length
          history := cursor.history.push cursor.position } := by
  rw [acceptAny] at accepted ⊢
  cases probed : cursor.probeAny? candidates with
  | none =>
      rw [probed] at accepted
      cases accepted
  | some count =>
      obtain ⟨before, name, behind, split, covered, earlier⟩ :=
        List.findSome?_eq_some_iff.1 probed
      obtain ⟨text, fits, rfl⟩ := probe?_eq_some_iff.1 covered
      refine ⟨before, name, behind, text, split, ?_, fits, rfl⟩
      intro other member
      exact check_eq_false_iff.2 (earlier other member)

/-- A cursor asks of what is ahead what the registry would answer: a name covers something if the
registry lets a beginning of the remaining text belong to it, and there is no more than one such
beginning.  To look changes nothing.  Of several names the first that covers something is
consumed, and the position before it remembered once; if there is none, everything stays. -/
theorem probing_agrees_with_accepts (cursor : Cursor) :
    (∀ name,
      (cursor.check name = true ↔
        ∃ text, cursor.registry.Fits name text cursor.remaining.toList) ∧
      (∀ text other, cursor.registry.Fits name text cursor.remaining.toList →
        cursor.registry.Fits name other cursor.remaining.toList → text = other) ∧
      ∀ (σ : Type) (state : σ),
        cursor.perform state (.check name) = ⟨.truth (cursor.check name), state, cursor⟩ ∧
          cursor.events state (.check name) = []) ∧
    ∀ candidates,
      ((cursor.acceptAny candidates).1 = true ↔
        ∃ name ∈ candidates, cursor.check name = true) ∧
      ((cursor.acceptAny candidates).1 = true →
        ∃ before name behind text, candidates = before ++ name :: behind ∧
          (∀ other ∈ before, cursor.check other = false) ∧
          cursor.registry.Fits name text cursor.remaining.toList ∧
          (cursor.acceptAny candidates).2 =
            { cursor with
              position := cursor.position + text.length
              history := cursor.history.push cursor.position }) ∧
      ((cursor.acceptAny candidates).1 = false → (cursor.acceptAny candidates).2 = cursor) := by
  constructor
  · intro name
    exact ⟨check_eq_true_iff, fun text other => Registry.Fits.unique, fun σ state => ⟨rfl, rfl⟩⟩
  · intro candidates
    exact ⟨acceptAny_eq_true_iff, exists_first_of_acceptAny, acceptAny_eq_false⟩

/-- The second name covers something, the third one more. -/
example :
    ((ofString "letters" ⟨2, Registry.empty⟩).acceptAny ["le_", "let", "letters"]).2.remaining =
      "ters" := by cbv

end Cursor

end TextCursor
