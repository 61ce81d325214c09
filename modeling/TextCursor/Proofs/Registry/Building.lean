import Mathlib.Data.Set.Card
import Mathlib.Tactic.Tauto
import TextCursor.Proofs.Registry.Lookup

/-!
# Building registries

A list of registrations is carried out if each of them is sound, and otherwise the first one
that is not gives the reason (`Registration.Refused`).  In the registry that is built a name
stands for what the last registration of its registered spelling gives to it, whichever way the
name is written there and here (`Registry.Reflects`, `build_reflects_last_registrations`).  Which
patterns compile is for the engine to say, and any engine will do.

What one registration gives (`Registration.Gives`) tells what a list of them gives, of which a
later one takes the place of an earlier one (`Registry.exists_buildFrom`).  From this it follows
that no name is stored with a space, and only therefore that it does not matter which of the two
attempts to look up a name succeeds.
-/

namespace TextCursor

variable {engine : Engine}

namespace Registration

/-- A registration gives a matcher to a registered spelling. -/
inductive Gives (engine : Engine) : Registration → String → Matcher → Prop where
  | standard (charClass : CharClass) :
      Gives engine .standard charClass.name (charClass.matcher engine)
  | literal (name text : String) :
      Gives engine (.literal name text) (ClassName.normalise name) (.literal text)
  | pattern (name : String) {source : String} {rule : Pattern}
      (compiled : engine.compile source = .ok rule) :
      Gives engine (.pattern name source) (ClassName.normalise name) (.pattern rule)

/-- The name of a registration is not empty, and its pattern compiles. -/
def IsSound (engine : Engine) : Registration → Prop
  | .standard => True
  | .literal name _ => name ≠ ""
  | .pattern name source => name ≠ "" ∧ ∃ rule, engine.compile source = .ok rule

/-- Why a registration is refused.  That a name is empty comes first, whether or not the pattern
compiles. -/
inductive Refused (engine : Engine) : Registration → RegistrationError engine.Cause → Prop where
  | namelessLiteral {text : String} : Refused engine (.literal "" text) .emptyName
  | namelessPattern {source : String} : Refused engine (.pattern "" source) .emptyName
  | invalid {name source : String} {cause : engine.Cause} (named : name ≠ "")
      (failed : engine.compile source = .error cause) :
      Refused engine (.pattern name source) (.invalidPattern (ClassName.normalise name) cause)

variable {registration : Registration} {error : RegistrationError engine.Cause}
  {spelling : String} {matcher : Matcher}

theorem gives_standard_iff :
    Gives engine .standard spelling matcher ↔
      ∃ charClass : CharClass, charClass.name = spelling ∧ charClass.matcher engine = matcher := by
  constructor
  · rintro ⟨charClass⟩
    exact ⟨charClass, rfl, rfl⟩
  · rintro ⟨charClass, rfl, rfl⟩
    exact .standard charClass

theorem gives_literal_iff {name text : String} :
    Gives engine (.literal name text) spelling matcher ↔
      ClassName.normalise name = spelling ∧ .literal text = matcher := by
  constructor
  · rintro ⟨⟩
    exact ⟨rfl, rfl⟩
  · rintro ⟨rfl, rfl⟩
    exact .literal name text

theorem gives_pattern_iff {name source : String} {rule : Pattern}
    (compiled : engine.compile source = .ok rule) :
    Gives engine (.pattern name source) spelling matcher ↔
      ClassName.normalise name = spelling ∧ .pattern rule = matcher := by
  constructor
  · intro given
    cases given with
    | pattern name again =>
        cases compiled.symm.trans again
        exact ⟨rfl, rfl⟩
  · rintro ⟨rfl, rfl⟩
    exact .pattern name compiled

theorem isSound_or_refused (engine : Engine) (registration : Registration) :
    registration.IsSound engine ∨ ∃ error, registration.Refused engine error := by
  cases registration with
  | standard => exact .inl trivial
  | literal name text =>
      by_cases nameless : name = ""
      · subst nameless
        exact .inr ⟨_, .namelessLiteral⟩
      · exact .inl nameless
  | pattern name source =>
      by_cases nameless : name = ""
      · subst nameless
        exact .inr ⟨_, .namelessPattern⟩
      · cases compiled : engine.compile source with
        | ok rule => exact .inl ⟨nameless, rule, compiled⟩
        | error cause => exact .inr ⟨_, .invalid nameless compiled⟩

theorem Refused.entries_eq (refused : registration.Refused engine error) :
    registration.entries engine = .error error := by
  cases refused with
  | namelessLiteral => rfl
  | namelessPattern => rfl
  | invalid named failed => simp [entries, named, failed]

/-- A sound registration adds the matchers that it gives. -/
theorem IsSound.exists_entries (sound : registration.IsSound engine) :
    ∃ entries, registration.entries engine = .ok entries ∧ ∀ (spelling : String)
      (matcher : Matcher), (entries.reverse.find? (·.1 = spelling)).map Prod.snd = some matcher ↔
        registration.Gives engine spelling matcher := by
  have one (name spelling : String) (given matcher : Matcher) :
      ([(name, given)].reverse.find? (·.1 = spelling)).map Prod.snd = some matcher ↔
        name = spelling ∧ given = matcher := by
    by_cases same : name = spelling <;> simp [same]
  cases registration with
  | standard =>
      refine ⟨_, rfl, fun spelling matcher => ?_⟩
      rw [CharClass.find?_entries, Option.map_eq_some_iff, gives_standard_iff]
      simp only [CharClass.find?_eq_some_iff CharClass.mem_all]
  | literal name text =>
      have named : name ≠ "" := sound
      refine ⟨[(ClassName.normalise name, .literal text)], by simp [entries, named], ?_⟩
      intro spelling matcher
      rw [one, gives_literal_iff]
  | pattern name source =>
      obtain ⟨named, rule, compiled⟩ := sound
      refine ⟨[(ClassName.normalise name, .pattern rule)], by simp [entries, named, compiled], ?_⟩
      intro spelling matcher
      rw [one, gives_pattern_iff compiled]

/-- Registered spellings have no spaces, and are not empty if the names are not. -/
theorem IsSound.spelled (sound : registration.IsSound engine)
    (given : registration.Gives engine spelling matcher) :
    spelling ≠ "" ∧ ' ' ∉ spelling.toList := by
  have normalised (name : String) (named : name ≠ "") :
      ClassName.normalise name ≠ "" ∧ ' ' ∉ (ClassName.normalise name).toList :=
    ⟨mt ClassName.normalise_eq_empty_iff.1 named,
      ClassName.normalise_eq_self_iff.1 (ClassName.normalise_normalise name)⟩
  cases given with
  | standard charClass =>
      rw [← charClass.normalise_name]
      apply normalised
      cases charClass <;> decide
  | literal name text => exact normalised name sound
  | pattern name compiled => exact normalised name sound.1

end Registration

namespace Registry

open Registration

variable {registrations before : List Registration} {registration : Registration}
  {error : RegistrationError engine.Cause} {registry : Registry} {spelling : String}
  {matcher : Matcher}

/-- Some registration gives a matcher to a spelling. -/
def Given (engine : Engine) (registrations : List Registration) (spelling : String) : Prop :=
  ∃ registration ∈ registrations, ∃ matcher, registration.Gives engine spelling matcher

/-- The last registration that gives a matcher to a spelling gives it this one. -/
def LastGiven (engine : Engine) (registrations : List Registration) (spelling : String)
    (matcher : Matcher) : Prop :=
  ∃ before registration after, registrations = before ++ registration :: after ∧
    registration.Gives engine spelling matcher ∧ ¬ Given engine after spelling

theorem not_given_nil : ¬ Given engine [] spelling := by
  rintro ⟨_, member, -⟩
  cases member

theorem given_cons_iff :
    Given engine (registration :: registrations) spelling ↔
      (∃ matcher, registration.Gives engine spelling matcher) ∨
        Given engine registrations spelling := by
  simp only [Given, List.mem_cons, exists_eq_or_imp]

theorem not_lastGiven_nil : ¬ LastGiven engine [] spelling matcher := by
  rintro ⟨before, registration, after, split, -⟩
  simp at split

/-- A registration counts where no later one says anything. -/
theorem lastGiven_cons_iff :
    LastGiven engine (registration :: registrations) spelling matcher ↔
      LastGiven engine registrations spelling matcher ∨
        ¬ Given engine registrations spelling ∧
          registration.Gives engine spelling matcher := by
  constructor
  · rintro ⟨before, last, after, split, given, never⟩
    cases before with
    | nil =>
        cases split
        exact .inr ⟨never, given⟩
    | cons first before =>
        cases split
        exact .inl ⟨before, last, after, rfl, given, never⟩
  · rintro (⟨before, last, after, rfl, given, never⟩ | ⟨never, given⟩)
    · exact ⟨registration :: before, last, after, rfl, given, never⟩
    · exact ⟨[], registration, registrations, rfl, given, never⟩

theorem given_iff :
    Given engine registrations spelling ↔
      ∃ matcher, LastGiven engine registrations spelling matcher := by
  induction registrations with
  | nil => simp only [not_given_nil, not_lastGiven_nil, exists_false]
  | cons registration registrations ih =>
      rw [given_cons_iff]
      simp only [lastGiven_cons_iff, exists_or, exists_and_left, ← ih]
      tauto

/-- What is stored behind a sound registration is what it gives, or else what was stored before. -/
theorem getElem?_insertAll_of_gives {entries : List (String × Matcher)}
    (gives : ∀ spelling matcher, (entries.reverse.find? (·.1 = spelling)).map Prod.snd =
      some matcher ↔ registration.Gives engine spelling matcher)
    (registry : Registry) (spelling : String) (matcher : Matcher) :
    (registry.insertAll entries).table[spelling]? = some matcher ↔
      registration.Gives engine spelling matcher ∨
        (¬ ∃ given, registration.Gives engine spelling given) ∧
          registry.table[spelling]? = some matcher := by
  rw [getElem?_insertAll, Option.or_eq_some_iff, Option.eq_none_iff_forall_ne_some]
  simp only [ne_eq, gives, not_exists]

/-- Sound registrations are carried out, and for every name the last of them wins that gives
anything to it. -/
theorem exists_buildFrom (sound : ∀ registration ∈ registrations, registration.IsSound engine)
    (registry : Registry) (step : Nat) :
    ∃ result, buildFrom engine registry step registrations = .ok result ∧
      ∀ spelling matcher, result.table[spelling]? = some matcher ↔
        LastGiven engine registrations spelling matcher ∨
          ¬ Given engine registrations spelling ∧ registry.table[spelling]? = some matcher := by
  induction registrations generalizing registry step with
  | nil =>
      refine ⟨registry, rfl, fun spelling matcher => ?_⟩
      simp only [not_lastGiven_nil, not_given_nil, not_false_eq_true, true_and, false_or]
  | cons registration registrations ih =>
      obtain ⟨entries, accepted, gives⟩ :=
        (sound registration List.mem_cons_self).exists_entries
      obtain ⟨result, built, found⟩ := ih
        (fun other member => sound other (List.mem_cons_of_mem _ member))
        (registry.insertAll entries) (step + 1)
      refine ⟨result, ?_, fun spelling matcher => ?_⟩
      · simp only [buildFrom, accepted]
        exact built
      · rw [found, lastGiven_cons_iff, given_cons_iff, getElem?_insertAll_of_gives gives]
        tauto

/-- The first registration that is not sound is refused, at its place. -/
theorem buildFrom_append_of_refused (sound : ∀ earlier ∈ before, earlier.IsSound engine)
    (refused : registration.Refused engine error) (registry : Registry) (step : Nat)
    (after : List Registration) :
    buildFrom engine registry step (before ++ registration :: after) =
      .error ⟨step + before.length, error⟩ := by
  induction before generalizing registry step with
  | nil => simp only [List.nil_append, buildFrom, refused.entries_eq, List.length_nil, Nat.add_zero]
  | cons first before ih =>
      obtain ⟨entries, accepted, -⟩ := (sound first List.mem_cons_self).exists_entries
      have rest := ih (fun other member => sound other (List.mem_cons_of_mem _ member))
        (registry.insertAll entries) (step + 1)
      simp only [List.cons_append, buildFrom, accepted, rest, List.length_cons, Nat.add_assoc,
        Nat.add_comm 1]

theorem sound_or_exists_refused (engine : Engine) (registrations : List Registration) :
    (∀ registration ∈ registrations, registration.IsSound engine) ∨
      ∃ before registration after error, registrations = before ++ registration :: after ∧
        (∀ earlier ∈ before, earlier.IsSound engine) ∧ registration.Refused engine error := by
  induction registrations with
  | nil => exact .inl (List.forall_mem_nil _)
  | cons first registrations ih =>
      rcases first.isSound_or_refused engine with sound | ⟨error, refused⟩
      · rcases ih with others | ⟨before, registration, after, error, rfl, others, refused⟩
        · exact .inl (List.forall_mem_cons.2 ⟨sound, others⟩)
        · exact .inr ⟨first :: before, registration, after, error, rfl,
            List.forall_mem_cons.2 ⟨sound, others⟩, refused⟩
      · exact .inr ⟨[], first, registrations, error, rfl, List.forall_mem_nil _, refused⟩

/-- A registry says what the last registration of each name gives. -/
structure Reflects (engine : Engine) (registry : Registry)
    (registrations : List Registration) : Prop where
  classify?_eq_some_iff : ∀ query matcher, registry.classify? query = some matcher ↔
    LastGiven engine registrations (ClassName.normalise query) matcher
  contains_iff : ∀ query, registry.contains query = true ↔
    Given engine registrations (ClassName.normalise query)
  size_eq : registry.size = Set.ncard {spelling | Given engine registrations spelling}
  spelled : ∀ name ∈ registry.table, name ≠ "" ∧ ' ' ∉ name.toList

theorem Reflects.normalised (reflects : registry.Reflects engine registrations) :
    registry.Normalised := fun name stored => (reflects.spelled name stored).2

theorem reflects_of_getElem? (sound : ∀ registration ∈ registrations, registration.IsSound engine)
    (found : ∀ spelling matcher, registry.table[spelling]? = some matcher ↔
      LastGiven engine registrations spelling matcher) :
    registry.Reflects engine registrations := by
  have member (name : String) : name ∈ registry.table ↔ Given engine registrations name := by
    rw [Std.HashMap.mem_iff_isSome_getElem?, Option.isSome_iff_exists, given_iff]
    exact exists_congr (found name)
  have spelled : ∀ name ∈ registry.table, name ≠ "" ∧ ' ' ∉ name.toList := by
    intro name stored
    obtain ⟨registration, inside, matcher, given⟩ := (member name).1 stored
    exact (sound registration inside).spelled given
  have normalised : registry.Normalised := fun name stored => (spelled name stored).2
  refine
    { classify?_eq_some_iff := fun query matcher => ?_
      contains_iff := fun query => ?_
      size_eq := ?_
      spelled := spelled }
  · rw [Registry.classify?_eq normalised, found]
  · rw [contains, Registry.classify?_eq normalised, ← Std.HashMap.mem_iff_isSome_getElem?, member]
  · have keys : {spelling | Given engine registrations spelling} =
        (registry.table.keys.toFinset : Set String) := by
      ext name
      rw [Set.mem_ofPred_eq, Finset.mem_coe, List.mem_toFinset, Std.HashMap.mem_keys, member]
    rw [size, keys, Set.ncard_coe_finset, List.toFinset_card_of_nodup Std.HashMap.nodup_keys,
      Std.HashMap.length_keys]

theorem exists_build (sound : ∀ registration ∈ registrations, registration.IsSound engine) :
    ∃ registry, build engine registrations = .ok registry ∧
      registry.Reflects engine registrations := by
  obtain ⟨registry, built, found⟩ := exists_buildFrom sound empty 0
  refine ⟨registry, built, reflects_of_getElem? sound fun spelling matcher => ?_⟩
  rw [found, getElem?_empty]
  simp only [reduceCtorEq, and_false, or_false]

/-- No registrations make the empty registry, and those of the standard classes the standard
one, so what holds of all registries that are built holds of these two. -/
theorem build_nil_and_build_standard :
    build engine [] = .ok empty ∧ build engine [.standard] = .ok (standard engine) := ⟨rfl, rfl⟩

theorem build_append_of_refused (sound : ∀ earlier ∈ before, earlier.IsSound engine)
    (refused : registration.Refused engine error) (after : List Registration) :
    build engine (before ++ registration :: after) = .error ⟨before.length, error⟩ := by
  rw [build, buildFrom_append_of_refused sound refused, Nat.zero_add]

/-- Only sound registrations build a registry. -/
theorem sound_of_build (built : build engine registrations = .ok registry) :
    ∀ registration ∈ registrations, registration.IsSound engine := by
  rcases sound_or_exists_refused engine registrations with
    sound | ⟨before, registration, after, error, rfl, sound, refused⟩
  · exact sound
  · cases built.symm.trans (build_append_of_refused sound refused after)

theorem reflects_of_build (built : build engine registrations = .ok registry) :
    registry.Reflects engine registrations := by
  obtain ⟨other, again, reflects⟩ := exists_build (sound_of_build built)
  cases built.symm.trans again
  exact reflects

/-- Whatever patterns compile, registrations build a registry exactly if all of them are sound,
and it reflects the last registration of every name.  If they are not, the first one that is
refused says why. -/
theorem build_reflects_last_registrations (engine : Engine) (registrations : List Registration) :
    ((∃ registry, build engine registrations = .ok registry) ↔
        ∀ registration ∈ registrations, registration.IsSound engine) ∧
      (∀ failure, build engine registrations = .error failure ↔
        ∃ before registration after, registrations = before ++ registration :: after ∧
          (∀ earlier ∈ before, earlier.IsSound engine) ∧ failure.step = before.length ∧
          registration.Refused engine failure.error) ∧
      ∀ registry, build engine registrations = .ok registry →
        registry.Reflects engine registrations := by
  refine ⟨⟨?_, ?_⟩, fun failure => ⟨?_, ?_⟩, fun registry => reflects_of_build⟩
  · rintro ⟨registry, built⟩
    exact sound_of_build built
  · intro sound
    obtain ⟨registry, built, -⟩ := exists_build sound
    exact ⟨registry, built⟩
  · intro failed
    rcases sound_or_exists_refused engine registrations with
      sound | ⟨before, registration, after, error, rfl, sound, refused⟩
    · obtain ⟨registry, built, -⟩ := exists_build sound
      cases built.symm.trans failed
    · cases (build_append_of_refused sound refused after).symm.trans failed
      exact ⟨before, registration, after, rfl, sound, rfl, refused⟩
  · rintro ⟨before, registration, after, rfl, sound, place, refused⟩
    rw [build_append_of_refused sound refused, ← place]

/-- A registration takes the place of the standard class whose name it spells in another way.  An
empty name is refused before its pattern is looked at, and a pattern that does not compile is
refused with the registered spelling of its name. -/
theorem build_reflects_last_registrations_respelled :
    (∃ registry, build .marking [.standard, .literal "dollar sign" "S"] = .ok registry ∧
      registry.classify? "dollar_sign" = some (.literal "S")) ∧
    build .marking [.standard, .pattern "" "["] = .error ⟨1, .emptyName⟩ ∧
    ∃ cause, build .marking [.standard, .pattern "left side" "["] =
      .error ⟨1, .invalidPattern "left_side" cause⟩ := by
  obtain ⟨accepted, -, reflects⟩ :=
    build_reflects_last_registrations .marking [.standard, .literal "dollar sign" "S"]
  obtain ⟨-, nameless, -⟩ :=
    build_reflects_last_registrations .marking [.standard, .pattern "" "["]
  obtain ⟨-, invalid, -⟩ :=
    build_reflects_last_registrations .marking [.standard, .pattern "left side" "["]
  have first : ∀ registration ∈ [Registration.standard], registration.IsSound .marking :=
    List.forall_mem_singleton.2 trivial
  have spelled : ClassName.normalise "dollar_sign" = ClassName.normalise "dollar sign" := by cbv
  refine ⟨?_, (nameless ⟨1, .emptyName⟩).2 ⟨[.standard], _, [], rfl, first, rfl, .namelessPattern⟩,
    ?_⟩
  · obtain ⟨registry, built⟩ := accepted.2 <| List.forall_mem_cons.2
      ⟨trivial, List.forall_mem_singleton.2 (by decide : "dollar sign" ≠ "")⟩
    refine ⟨registry, built, ((reflects registry built).classify?_eq_some_iff _ _).2 ?_⟩
    rw [spelled]
    exact ⟨[.standard], _, [], rfl, .literal "dollar sign" "S", not_given_nil⟩
  · obtain ⟨cause, failed⟩ : ∃ cause, Engine.marking.compile "[" = .error cause := ⟨_, rfl⟩
    have registered : ClassName.normalise "left side" = "left_side" := by cbv
    refine ⟨cause, (invalid ⟨1, .invalidPattern "left_side" cause⟩).2
      ⟨[.standard], _, [], rfl, first, rfl, ?_⟩⟩
    rw [← registered]
    exact .invalid (by decide) failed

end Registry

end TextCursor
