import Mathlib.Order.Bounds.Basic
import TextCursor.Proofs.Cursor.Runs

/-!
# Searching for a text

To read up to a name that stands for a text is to search for that text: a run goes on one
character at a time, and at each place the whole text is compared.  So it ends at the first
occurrence (`stopsBefore_readUntil`), and a run that goes on while the text occurs ends behind
the last of the places, one next to the other, where it does (`stopsBehind_readWhile`).
-/

namespace TextCursor

variable {σ : Type}

/-! ## Names that stand for texts -/

/-- The text that a name stands for: the literal registered for it, or its own text if nothing
is registered. -/
def Registry.textOf? (registry : Registry) (name : String) : Option String :=
  match registry.classify? name with
  | some (.literal text) => some text
  | some (.pattern _) => none
  | none => some (ClassName.literalText name)

/-- Whether characters begin with a text that is not empty. -/
def beginsWith (text : String) (chars : List Char) : Bool := (prefixLength? text chars).isSome

/-- A text stands at a place of a list of characters. -/
def OccursAt (text : String) (chars : List Char) (place : Nat) : Prop :=
  text.toList <+: chars.drop place

/-- A name stands for the literal registered for it, and for its own text if nothing is. -/
theorem Registry.classify?_of_textOf? {registry : Registry} {name text : String}
    (stands : registry.textOf? name = some text) :
    registry.classify? name = some (.literal text) ∨
      registry.classify? name = none ∧ ClassName.literalText name = text := by
  rw [textOf?] at stands
  split at stands <;> rename_i registered
  · cases stands
    exact .inl registered
  · cases stands
  · cases stands
    exact .inr ⟨registered, rfl⟩

theorem Registry.covers?_of_textOf? {registry : Registry} {name text : String}
    (stands : registry.textOf? name = some text) (chars : List Char) :
    registry.covers? name chars = prefixLength? text chars := by
  rcases classify?_of_textOf? stands with registered | ⟨registered, rfl⟩ <;>
    rw [covers?, registered]

theorem beginsWith_drop {text : String} {chars : List Char} {place : Nat} :
    beginsWith text (chars.drop place) = true ↔ text ≠ "" ∧ OccursAt text chars place := by
  rw [beginsWith, prefixLength?, OccursAt]
  split
  · rename_i fits
    exact iff_of_true rfl fits
  · rename_i differs
    exact iff_of_false Bool.false_ne_true differs

/-- A text that is not empty stands before the end. -/
theorem OccursAt.lt_length {text : String} {chars : List Char} {place : Nat}
    (occurs : OccursAt text chars place) (some : text ≠ "") : place < chars.length := by
  have size := occurs.length_le
  rw [List.length_drop, String.length_toList] at size
  have positive := Nat.pos_of_ne_zero (mt String.length_eq_zero_iff.1 some)
  omega

theorem isInfix_iff_exists_occursAt {text : String} {chars : List Char} :
    text.toList <:+: chars ↔ ∃ place, OccursAt text chars place := by
  constructor
  · rintro ⟨before, behind, rfl⟩
    refine ⟨before.length, ?_⟩
    rw [OccursAt, List.append_assoc, List.drop_left]
    exact List.prefix_append _ _
  · rintro ⟨place, occurs⟩
    exact occurs.isInfix.trans (List.drop_suffix place chars).isInfix

/-! ## Runs of predicates that only look ahead -/

/-- A number of places at the beginning of a list from which the characters ahead are as wanted,
up to the first where they are not. -/
structure Stretch (holds : List Char → Bool) (wanted : Bool) (chars : List Char) (count : Nat) :
    Prop where
  count_le : count ≤ chars.length
  along : ∀ place < count, holds (chars.drop place) = wanted
  behind : count < chars.length → holds (chars.drop count) ≠ wanted

/-- A predicate whose answers depend on the characters ahead and on nothing else is true, or
false, on a stretch of them. -/
theorem Predicate.exists_reach_stretch {registry : Registry} {predicate : Predicate σ}
    {holds : List Char → Bool}
    (judges : ∀ state run char chars,
      predicate.judge registry state run (char :: chars) = (holds (char :: chars), state))
    (wanted : Bool) (chars : List Char) (run : Nat) (state : σ) :
    ∃ count, Stretch holds wanted chars count ∧
      predicate.reach registry wanted chars run state = (run + count, state) := by
  induction chars generalizing run with
  | nil =>
      refine ⟨0, ⟨Nat.le_refl 0, ?_, ?_⟩, rfl⟩
      · intro place behind
        cases behind
      · intro inside
        cases inside
  | cons char chars ih =>
      have judged := judges state run char chars
      by_cases answer : holds (char :: chars) = wanted
      · obtain ⟨count, stretch, reached⟩ := ih (run + 1)
        refine ⟨count + 1, ⟨Nat.succ_le_succ stretch.count_le, ?_, ?_⟩, ?_⟩
        · intro place behind
          cases place with
          | zero => exact answer
          | succ place => exact stretch.along place (Nat.lt_of_succ_lt_succ behind)
        · intro inside
          exact stretch.behind (Nat.lt_of_succ_lt_succ inside)
        · rw [reach_of_eq (judged ▸ answer), judged, reached, Nat.add_right_comm, Nat.add_assoc]
      · refine ⟨0, ⟨Nat.zero_le _, ?_, fun _ => answer⟩, ?_⟩
        · intro place behind
          cases behind
        · rw [reach_of_ne (judged ▸ answer), judged, Nat.add_zero]

namespace Cursor

/-- A reading that stops before a text: it has read what stands before the first occurrence ahead,
or all there is, and then either nothing is left or the name of the text consumes just the
text. -/
structure StopsBefore (cursor : Cursor) (name text : String) (reading : Reading σ) : Prop where
  text_of_occurs : text ≠ "" ∧ text.toList <:+: cursor.ahead →
    ∃ place, IsLeast {place | OccursAt text cursor.ahead place} place ∧
      reading.text = String.ofList (cursor.ahead.take place)
  text_of_missing : text = "" ∨ ¬ text.toList <:+: cursor.ahead → reading.text = cursor.remaining
  next : reading.cursor.remaining = "" ∨
    reading.cursor.check name = true ∧
      reading.cursor.acceptAny [name] = (true, reading.cursor.consume text.length) ∧
      reading.cursor.remaining = text ++ (reading.cursor.consume text.length).remaining

/-- A reading that stops where a text no longer occurs: it has passed as many places as there are
occurrences one place behind the other, and none if the text is empty. -/
structure StopsBehind (cursor : Cursor) (name text : String) (reading : Reading σ) : Prop where
  cursor_of_empty : text = "" → reading.cursor = cursor
  passed : text ≠ "" →
    ∃ count, IsGreatest {count | ∀ place < count, OccursAt text cursor.ahead place} count ∧
      reading.text = String.ofList (cursor.ahead.take count) ∧
      reading.cursor.position = cursor.position + count
  check_eq_false : reading.cursor.check name = false

section Text

variable {cursor : Cursor} {name text : String}
  (stands : cursor.registry.textOf? name = some text)
include stands

/-- A run of a name that stands for a text goes over a stretch of places where the text occurs,
or of places where it does not. -/
theorem exists_readRun_stretch (wanted : Bool) (state : σ) :
    ∃ count,
      Stretch (beginsWith text) wanted cursor.ahead count ∧
        cursor.readRun (.name name) wanted state =
          ⟨String.ofList (cursor.ahead.take count), state, cursor.pass count⟩ := by
  have judges : ∀ (state : σ) (run : Nat) (char : Char) (chars : List Char),
      (Predicate.name name).judge cursor.registry state run (char :: chars) =
        (beginsWith text (char :: chars), state) := by
    intro state run char chars
    rw [Predicate.judge, Registry.covers?_of_textOf? stands, beginsWith]
  obtain ⟨count, stretch, reached⟩ :=
    Predicate.exists_reach_stretch judges wanted cursor.ahead 0 state
  rw [Nat.zero_add] at reached
  exact ⟨count, stretch, by rw [readRun_eq_reach, reached]⟩

theorem check_eq : cursor.check name = beginsWith text cursor.ahead := by
  rw [check, probe?_eq, Registry.covers?_of_textOf? stands, beginsWith]

/-- Where the text is ahead, the name consumes it and nothing else. -/
theorem acceptAny_of_beginsWith (begins : beginsWith text cursor.ahead = true) :
    cursor.acceptAny [name] = (true, cursor.consume text.length) ∧
      cursor.remaining = text ++ (cursor.consume text.length).remaining := by
  obtain ⟨count, covered⟩ := Option.isSome_iff_exists.1 begins
  obtain ⟨positive, rfl, split⟩ := prefixLength?_eq_some covered
  rw [← Registry.covers?_of_textOf? stands] at covered
  refine ⟨accept_of_covers covered, ?_⟩
  have available : text.length ≤ cursor.left := by
    rw [← length_ahead, split, List.length_append, String.length_toList]
    exact Nat.le_add_right _ _
  have later := ahead_pass available
  rw [pass, if_neg (Nat.ne_of_gt positive)] at later
  rw [← String.toList_inj, String.toList_append]
  show cursor.ahead = text.toList ++ (cursor.consume text.length).ahead
  rw [later]
  exact split

theorem stopsBefore_readUntil (state : σ) :
    StopsBefore cursor name text (cursor.readUntil (.name name) state) := by
  obtain ⟨count, stretch, read⟩ := exists_readRun_stretch stands false state
  have later : (cursor.pass count).ahead = cursor.ahead.drop count :=
    ahead_pass (length_ahead cursor ▸ stretch.count_le)
  have here (inside : count < cursor.ahead.length) :
      beginsWith text (cursor.ahead.drop count) = true :=
    Bool.ne_false_iff.1 (stretch.behind inside)
  rw [readUntil, read]
  refine ⟨?_, ?_, ?_⟩
  · rintro ⟨some, inner⟩
    have earliest : ∀ place, OccursAt text cursor.ahead place → count ≤ place := by
      intro place occurs
      refine Nat.le_of_not_lt fun before => ?_
      have found := beginsWith_drop.2 ⟨some, occurs⟩
      rw [stretch.along place before] at found
      cases found
    obtain ⟨place, occurs⟩ := isInfix_iff_exists_occursAt.1 inner
    have inside := Nat.lt_of_le_of_lt (earliest place occurs) (occurs.lt_length some)
    exact ⟨count, ⟨(beginsWith_drop.1 (here inside)).2, earliest⟩, rfl⟩
  · intro missing
    have finished : cursor.ahead.length ≤ count := by
      refine Nat.le_of_not_lt fun inside => ?_
      obtain ⟨some, occurs⟩ := beginsWith_drop.1 (here inside)
      exact missing.elim some fun outside =>
        outside (isInfix_iff_exists_occursAt.2 ⟨count, occurs⟩)
    show String.ofList (cursor.ahead.take count) = cursor.remaining
    rw [List.take_of_length_le finished, ahead, String.ofList_toList]
  · by_cases inside : count < cursor.ahead.length
    · right
      have occurs := here inside
      rw [← later] at occurs
      have same : (cursor.pass count).registry.textOf? name = some text := by
        rw [(advanced_pass cursor count).registry_eq]
        exact stands
      exact ⟨(check_eq same).trans occurs, acceptAny_of_beginsWith same occurs⟩
    · left
      rw [← String.toList_inj]
      exact later.trans (List.drop_eq_nil_of_le (Nat.le_of_not_lt inside))

theorem stopsBehind_readWhile (state : σ) :
    StopsBehind cursor name text (cursor.readWhile (.name name) state) := by
  obtain ⟨count, stretch, read⟩ := exists_readRun_stretch stands true state
  have later : (cursor.pass count).ahead = cursor.ahead.drop count :=
    ahead_pass (length_ahead cursor ▸ stretch.count_le)
  rw [readWhile, read]
  refine ⟨?_, ?_, ?_⟩
  · intro empty
    have nothing : count = 0 := by
      refine Nat.eq_zero_of_not_pos fun positive => ?_
      exact (beginsWith_drop.1 (stretch.along 0 positive)).1 empty
    rw [nothing]
    rfl
  · intro some
    refine ⟨count, ⟨?_, ?_⟩, rfl, (advanced_pass cursor count).position_eq⟩
    · intro place before
      exact (beginsWith_drop.1 (stretch.along place before)).2
    · intro other occurs
      refine Nat.le_of_not_lt fun further => ?_
      have here := occurs count further
      exact stretch.behind (here.lt_length some) (beginsWith_drop.2 ⟨some, here⟩)
  · have same : (cursor.pass count).registry.textOf? name = Option.some text := by
      rw [(advanced_pass cursor count).registry_eq]
      exact stands
    rw [check_eq same, later]
    by_cases inside : count < cursor.ahead.length
    · exact Bool.eq_false_iff.2 (stretch.behind inside)
    · rw [List.drop_eq_nil_of_le (Nat.le_of_not_lt inside), beginsWith, prefixLength?_nil]
      rfl

end Text

/-- With a name that stands for a text, to read up to it is to read up to the first occurrence of
the text, and to read along it is to read over all occurrences that stand one place behind the
other. -/
theorem stopsBefore_readUntil_and_stopsBehind_readWhile {cursor : Cursor} {name text : String}
    (stands : cursor.registry.textOf? name = some text) (state : σ) :
    StopsBefore cursor name text (cursor.readUntil (.name name) state) ∧
      StopsBehind cursor name text (cursor.readWhile (.name name) state) :=
  ⟨stopsBefore_readUntil stands state, stopsBehind_readWhile stands state⟩

/-- A cursor behind the first character of a text in which the literal of a class overlaps
itself. -/
def beforePairs : Cursor :=
  { ofString "éb😀😀😀 b" { registry := Registry.empty.insertAll [("pair", .literal "😀😀")] } with
    position := 0 }

/-- The name of that class, and a name that no class bears and whose underscore is a space. -/
theorem stopsBefore_readUntil_and_stopsBehind_readWhile_pair :
    beforePairs.registry.textOf? "pair" = some "😀😀" ∧
      StopsBefore beforePairs "pair" "😀😀" (beforePairs.readUntil (.name "pair") ()) ∧
      StopsBehind beforePairs "pair" "😀😀" (beforePairs.readWhile (.name "pair") ()) ∧
      beforePairs.registry.textOf? "😀_b" = some "😀 b" ∧
      StopsBefore beforePairs "😀_b" "😀 b" (beforePairs.readUntil (.name "😀_b") ()) ∧
      StopsBehind beforePairs "😀_b" "😀 b" (beforePairs.readWhile (.name "😀_b") ()) := by
  have registered : beforePairs.registry.textOf? "pair" = some "😀😀" := by
    simp [beforePairs, Registry.textOf?, Registry.classify?, Registry.insertAll, ofString]
  have spelled : ClassName.literalText "😀_b" = "😀 b" := by cbv
  have nameless : beforePairs.registry.textOf? "😀_b" = some "😀 b" := by
    simp [beforePairs, Registry.textOf?, Registry.classify?, Registry.insertAll, Registry.empty,
      ofString, spelled]
  obtain ⟨before, behind⟩ := stopsBefore_readUntil_and_stopsBehind_readWhile registered ()
  exact ⟨registered, before, behind, nameless,
    stopsBefore_readUntil_and_stopsBehind_readWhile nameless ()⟩

end Cursor

end TextCursor
