import TextCursor.Proofs.Cursor.Steps
import TextCursor.Proofs.Registry.Building

/-!
# Spellings of names

A name is written with spaces or with underscores between its words, and no answer tells which.
Registered names are brought to underscores and the others to spaces, so both cases have to be
looked at wherever a name is used; it is done once for a place in the text
(`matchLength?_normalise`), and everything that a cursor does with names rests on that
(`perform_normalise`).
-/

namespace TextCursor

namespace Registry

variable {registry : Registry} (normalised : registry.Normalised)
include normalised

theorem classify?_normalise (name : String) :
    registry.classify? (ClassName.normalise name) = registry.classify? name := by
  rw [classify?_eq normalised, classify?_eq normalised, ClassName.normalise_normalise]

theorem contains_normalise (name : String) :
    registry.contains (ClassName.normalise name) = registry.contains name := by
  rw [contains, contains, classify?_normalise normalised]

theorem accepts_normalise (name candidate : String) :
    registry.accepts (ClassName.normalise name) candidate = registry.accepts name candidate := by
  simp only [accepts, classify?_normalise normalised, ClassName.literalText_normalise]

end Registry

variable {σ : Type}

/-- The predicate with the registered spelling of its name, if it has one. -/
def Predicate.normalise : Predicate σ → Predicate σ
  | .name text => .name (ClassName.normalise text)
  | other => other

namespace Cursor

/-- The operation with the registered spellings of all of its names. -/
def Operation.normalise : Operation σ → Operation σ
  | .acceptAny candidates => .acceptAny (candidates.map ClassName.normalise)
  | .check name => .check (ClassName.normalise name)
  | .readWhile predicate => .readWhile predicate.normalise
  | .readUntil predicate => .readUntil predicate.normalise
  | other => other

section Normalised

variable {cursor : Cursor} (normalised : cursor.registry.Normalised)
include normalised

theorem matchLength?_normalise (place : Nat) (name : String) :
    cursor.matchLength? place (ClassName.normalise name) = cursor.matchLength? place name := by
  simp only [matchLength?, Registry.classify?_normalise normalised,
    ClassName.literalText_normalise]

theorem probe?_normalise (name : String) :
    cursor.probe? (ClassName.normalise name) = cursor.probe? name := by
  simp only [probe?, matchLength?_normalise normalised]

theorem acceptAny_normalise (candidates : List String) :
    cursor.acceptAny (candidates.map ClassName.normalise) = cursor.acceptAny candidates := by
  have same : cursor.probe? ∘ ClassName.normalise = cursor.probe? :=
    funext (probe?_normalise normalised)
  simp only [acceptAny, probeAny?, List.findSome?_map, same]

theorem satisfies_normalise (predicate : Predicate σ) (state : σ) (place run : Nat) :
    cursor.satisfies predicate.normalise state place run =
      cursor.satisfies predicate state place run := by
  cases predicate with
  | test ask => rfl
  | pattern rule => rfl
  | name name => simp only [satisfies, Predicate.normalise, matchLength?_normalise normalised]

theorem extent_normalise (predicate : Predicate σ) (wanted : Bool) (start ahead run : Nat)
    (state : σ) :
    cursor.extent predicate.normalise wanted start ahead run state =
      cursor.extent predicate wanted start ahead run state := by
  induction ahead generalizing run state with
  | zero => rfl
  | succ ahead ih => simp only [extent, satisfies_normalise normalised, ih]

theorem readRun_normalise (predicate : Predicate σ) (wanted : Bool) (state : σ) :
    cursor.readRun predicate.normalise wanted state = cursor.readRun predicate wanted state := by
  simp only [readRun, extent_normalise normalised]

/-- An operation has the same outcome with the registered spellings of its names. -/
theorem perform_normalise (state : σ) (operation : Operation σ) :
    cursor.perform state operation.normalise = cursor.perform state operation := by
  cases operation with
  | acceptAny candidates =>
      simp only [Operation.normalise, perform, acceptAny_normalise normalised]
  | check name => simp only [Operation.normalise, perform, check, probe?_normalise normalised]
  | readWhile predicate =>
      simp only [Operation.normalise, perform, readWhile, readRun_normalise normalised]
  | readUntil predicate =>
      simp only [Operation.normalise, perform, readUntil, readRun_normalise normalised]
  | _ => rfl

theorem run_normalise (state : σ) (operations : List (Operation σ)) :
    cursor.run state (operations.map Operation.normalise) = cursor.run state operations := by
  induction operations generalizing cursor state with
  | nil => rfl
  | cons operation operations ih =>
      have later : (cursor.perform state operation).cursor.registry.Normalised := by
        rw [registry_perform]
        exact normalised
      simp only [List.map_cons, run, perform_normalise normalised, ih later]

end Normalised

/-- For a registry that was built, two spellings of a name are the same name: they find the
same class and accept the same texts, and at whatever position a cursor is, it does the same
with them and ends in the same state.  So does a run of operations of which any names are spelled
differently.  The empty registry and the standard one are built as well
(`Registry.build_nil_and_build_standard`). -/
theorem spellings_interchangeable {engine : Engine} {registrations : List Registration}
    {registry : Registry} (built : Registry.build engine registrations = .ok registry)
    {name other : String}
    (same : ClassName.normalise name = ClassName.normalise other) :
    registry.classify? name = registry.classify? other ∧
      registry.contains name = registry.contains other ∧
      (∀ candidate, registry.accepts name candidate = registry.accepts other candidate) ∧
      ∀ cursor : Cursor, cursor.registry = registry →
        cursor.check name = cursor.check other ∧
        (∀ candidates others : List String,
          candidates.map ClassName.normalise = others.map ClassName.normalise →
            cursor.acceptAny candidates = cursor.acceptAny others) ∧
        ∀ {σ : Type} (state : σ),
          cursor.readWhile (.name name) state = cursor.readWhile (.name other) state ∧
          cursor.readUntil (.name name) state = cursor.readUntil (.name other) state ∧
          ∀ operations others : List (Operation σ),
            operations.map Operation.normalise = others.map Operation.normalise →
              cursor.run state operations = cursor.run state others := by
  have normalised := (Registry.reflects_of_build built).normalised
  refine ⟨?_, ?_, fun candidate => ?_, ?_⟩
  · rw [← Registry.classify?_normalise normalised, same, Registry.classify?_normalise normalised]
  · rw [← Registry.contains_normalise normalised, same, Registry.contains_normalise normalised]
  · rw [← Registry.accepts_normalise normalised, same, Registry.accepts_normalise normalised]
  rintro cursor rfl
  have reads {σ : Type} (wanted : Bool) (state : σ) :
      cursor.readRun (.name name) wanted state = cursor.readRun (.name other) wanted state := by
    rw [← readRun_normalise normalised, Predicate.normalise, same]
    exact readRun_normalise normalised (.name other) wanted state
  refine ⟨?_, fun candidates others respelled => ?_,
    fun state => ⟨reads true state, reads false state, fun operations others respelled => ?_⟩⟩
  · rw [check, ← probe?_normalise normalised, same, probe?_normalise normalised, check]
  · rw [← acceptAny_normalise normalised, respelled, acceptAny_normalise normalised]
  · rw [← run_normalise normalised, respelled, run_normalise normalised]

/-- A class with a pattern that takes the place of a standard one and is asked for in two other
spellings, also before the text and behind it. -/
theorem spellings_interchangeable_pattern :
    ∃ registry, Registry.build .marking [.standard, .pattern "left round_bracket" "[0-9]"] =
        .ok registry ∧
      ClassName.normalise "left_round bracket" = ClassName.normalise "left round bracket" ∧
      registry.classify? "left_round bracket" = registry.classify? "left round bracket" ∧
      ∀ position : Int,
        let cursor : Cursor :=
          { ofString "4(" { registry := registry } with position := position }
        cursor.check "left_round bracket" = cursor.check "left round bracket" ∧
        cursor.readWhile (.name "left_round bracket") () =
          cursor.readWhile (.name "left round bracket") () := by
  have sound : ∀ registration ∈ ([.standard, .pattern "left round_bracket" "[0-9]"] :
      List Registration), registration.IsSound .marking :=
    List.forall_mem_cons.2 ⟨trivial, List.forall_mem_singleton.2
      ⟨by decide, CharClass.digitPattern, rfl⟩⟩
  obtain ⟨registry, built, -⟩ := Registry.exists_build sound
  have same : ClassName.normalise "left_round bracket" =
      ClassName.normalise "left round bracket" := by cbv
  obtain ⟨found, -, -, cursors⟩ := spellings_interchangeable built same
  refine ⟨registry, built, same, found, fun position => ?_⟩
  obtain ⟨checked, -, reads⟩ :=
    cursors { ofString "4(" { registry := registry } with position := position } rfl
  exact ⟨checked, (reads ()).1⟩

end Cursor

end TextCursor
